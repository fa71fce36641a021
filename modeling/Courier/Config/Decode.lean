import Courier.Config.Basic
import Courier.Decimal.Shortest
import Courier.Document
import Courier.Text.Ascii
import Courier.Unicode.Visible

/-!
# Reading a configuration from a document

Entries are read in document order and the first one that does not fit decides the error.  Unknown
keys are ignored and missing ones take their defaults; a structure may also be written as the
sequence of its fields.
-/

namespace Courier.Config

open Http (Version)

/-- Why a document is no configuration. -/
inductive SchemaError where
  /-- A value of another kind stands where something is expected. -/
  | wrongKind (found : Document) (expected : String)
  /-- A whole number is out of range. -/
  | outOfRange (value : Int) (expected : String)
  /-- A name is none of those known. -/
  | unknownVariant (name : String) (known : List String)
  /-- A name is expected and the value is neither a text nor a table. -/
  | notNamed
  /-- A table that should name one thing is empty. -/
  | namesNothing
  /-- A table that should name one thing has several entries. -/
  | namesSeveral
  /-- The entry of a table that names one thing holds something. -/
  | nameNotEmpty
  /-- The entry of a table that names one thing is no table. -/
  | nameNotTable (found : Document)
  /-- A field without a default is missing. -/
  | missingField (name : String)
  /-- A sequence is too short. -/
  | tooShort (length : Nat) (expected : String)
deriving Repr

/-- A text between quotation marks, with escapes for characters that cannot be seen. -/
def quoted (text : String) : String :=
  let escapeOf (char : Char) : List Char :=
    match char with
    | '"' => ['\\', '"']
    | '\\' => ['\\', '\\']
    | '\n' => ['\\', 'n']
    | '\r' => ['\\', 'r']
    | '\t' => ['\\', 't']
    | '\x00' => ['\\', '0']
    | other =>
      if Unicode.isVisible other then [other]
      else ['\\', 'u', '\x7b'] ++ Nat.toDigits 16 other.toNat ++ ['\x7d']
  "\"" ++ String.ofList (text.toList.flatMap escapeOf) ++ "\""

/-- A name as error messages mark it. -/
def marked (name : String) : String := "`" ++ name ++ "`"

/-- What stands in a document, as error messages say it. -/
def describe : Document → String
  | .null => "null"
  | .string text => "string " ++ quoted text
  | .integer value => "integer " ++ marked (toString value)
  | .float value => "floating point " ++ marked (Decimal.text value)
  | .boolean value => "boolean " ++ marked (if value then "true" else "false")
  | .array _ | .tables _ => "sequence"
  | .datetime _ | .table _ _ => "map"

/-- A schema error in words. -/
def SchemaError.message : SchemaError → String
  | wrongKind found expected => "invalid type: " ++ describe found ++ ", expected " ++ expected
  | outOfRange value expected =>
    "invalid value: integer " ++ marked (toString value) ++ ", expected " ++ expected
  | unknownVariant name known =>
    "unknown variant " ++ marked name ++ ", expected one of " ++ ", ".intercalate (known.map marked)
  | notNamed => "wanted string or table"
  | namesNothing => "wanted exactly 1 element, found 0 elements"
  | namesSeveral => "wanted exactly 1 element, more than 1 element"
  | nameNotEmpty => "expected empty table"
  | nameNotTable found => "expected table, found " ++ found.kindName
  | missingField name => "missing field " ++ marked name
  | tooShort length expected => "invalid length " ++ toString length ++ ", expected " ++ expected

/-- A way to read a value of some type. -/
abbrev Reader (α : Type) := Document → Except SchemaError α

/-- Reads a text. -/
def readString : Reader String
  | .string text => .ok text
  | found => .error (.wrongKind found "a string")

/-- Reads a truth value. -/
def readBool : Reader Bool
  | .boolean value => .ok value
  | found => .error (.wrongKind found "a boolean")

/-- Reads a whole number below a bound. -/
def readNat (bound : Nat) (expected : String) : Reader Nat
  | .integer value =>
    if 0 ≤ value && value < bound then .ok value.toNat else .error (.outOfRange value expected)
  | found => .error (.wrongKind found expected)

/-- Reads a number of sixteen bits. -/
def readUInt16 : Reader UInt16 := fun value => (readNat UInt16.size "u16" value).map UInt16.ofNat

/-- Reads a number of thirty-two bits. -/
def readUInt32 : Reader UInt32 := fun value => (readNat UInt32.size "u32" value).map UInt32.ofNat

/-- Reads a count of sixty-four bits. -/
def readSize : Reader UInt64 := fun value => (readNat UInt64.size "usize" value).map UInt64.ofNat

/-- Reads a number of sixty-four bits. -/
def readUInt64 : Reader UInt64 := fun value => (readNat UInt64.size "u64" value).map UInt64.ofNat

/-- Reads a value that may be absent. -/
def readOption {α : Type} (read : Reader α) : Reader (Option α)
  | .null => .ok none
  | value => (read value).map some

/-- Reads a sequence. -/
def readList {α : Type} (read : Reader α) : Reader (List α)
  | .array items | .tables items => items.mapM read
  | found => .error (.wrongKind found "a sequence")

/-- Reads one of several names; a name may also be the only key of a table, over an empty one. -/
def readName {α : Type} (known : List (String × α)) : Reader α
  | .string name => pick name
  | .table _ [] => .error .namesNothing
  | .table _ [(name, inner)] => do
    let value ← pick name
    match inner with
    | .null | .table _ [] => return value
    | .table _ _ => throw .nameNotEmpty
    | found => throw (.nameNotTable found)
  | .table _ _ => .error .namesSeveral
  | _ => .error .notNamed
where
  /-- The thing of a name. -/
  pick (name : String) : Except SchemaError α :=
    match known.find? (·.1 == name) with
    | some (_, value) => .ok value
    | none => .error (.unknownVariant name (known.map (·.1)))

/-- Reads a version of HTTP. -/
def readVersion : Reader Version :=
  readName (Version.all.map fun version => (version.configName, version))

/-- Reads a kind of proxy. -/
def readProxyKind : Reader ProxyKind :=
  readName (ProxyKind.all.map fun kind => (kind.configName, kind))

/-- A field of a structure: its key and how its value goes into the structure. -/
structure Field (σ : Type) where
  /-- Key of the field. -/
  key : String
  /-- Stores the value of the field. -/
  store : σ → Document → Except SchemaError σ

/-- A field from a reader and a way to store what it reads. -/
def field {σ α : Type} (key : String) (read : Reader α) (set : σ → α → σ) : Field σ :=
  ⟨key, fun target value => (read value).map (set target)⟩

/-- Reads a structure onto its defaults. -/
def readFields {σ : Type} (expected : String) (fields : List (Field σ)) (defaults : σ) : Reader σ
  | .table _ entries =>
    entries.foldlM (fun target (key, value) =>
      match fields.find? (·.key == key) with
      | some field => field.store target value
      | none => .ok target) defaults
  | .array items | .tables items =>
    (fields.zip items).foldlM (fun target (field, value) => field.store target value) defaults
  | .datetime _ => .ok defaults
  | found => .error (.wrongKind found expected)

/-- A proxy whose host may still be missing. -/
structure ProxyDraft where
  /-- Host, once it has been read. -/
  host : Option String := none
  /-- All other fields. -/
  rest : Proxy := { host := "" }

def proxyFields : List (Field ProxyDraft) := [
  field "host" readString fun draft value => { draft with host := some value },
  field "port" readUInt16 fun draft value => { draft with rest.port := value },
  field "kind" readProxyKind fun draft value => { draft with rest.kind := value },
  field "username" (readOption readString) fun draft value => { draft with rest.username := value },
  field "password" (readOption readString) fun draft value => { draft with rest.password := value }]

/-- Reads a proxy, which needs a host. -/
def readProxy : Reader Proxy := fun value => do
  let draft ← readFields "struct ProxyOptions" proxyFields {} value
  match draft.host, value with
  | some host, _ => return { draft.rest with host }
  | none, .array items | none, .tables items =>
    throw (.tooShort items.length "struct ProxyOptions with 5 elements")
  | none, _ => throw (.missingField "host")

/-- Reads the limits of the pool. -/
def readPoolLimits : Reader PoolLimits :=
  readFields "struct PoolConfig" [
    field "max_pool_size" readSize fun pool value => { pool with maxPoolSize := value },
    field "max_wait_queue_size" readSize fun pool value => { pool with maxWaitQueueSize := value },
    field "connect_timeout_ms" readUInt64 fun pool value => { pool with connectTimeoutMs := value }]
    {}

/-- Reads the level of the log. -/
def readLogLevel : Reader String :=
  readFields "struct ObservabilityConfig" [field "log_level" readString fun _ value => value] "info"

def fields : List (Field Config) := [
  field "default_host" readString fun config value => { config with defaultHost := value },
  field "default_port" readUInt16 fun config value => { config with defaultPort := value },
  field "ssl" readBool fun config value => { config with secure := value },
  field "use_alpn" readBool fun config value => { config with useAlpn := value },
  field "alpn_versions" (readList readVersion) fun config value =>
    { config with alpnVersions := value },
  field "protocol_version" readVersion fun config value => { config with protocolVersion := value },
  field "proxy" (readOption readProxy) fun config value => { config with proxy := value },
  field "max_websocket_frame_size" readSize fun config value =>
    { config with maxWebSocketFrameSize := value },
  field "follow_redirects" readBool fun config value => { config with followRedirects := value },
  field "max_redirects" readUInt32 fun config value => { config with maxRedirects := value },
  field "max_response_body_bytes" readSize fun config value =>
    { config with maxResponseBodyBytes := value },
  field "pool" readPoolLimits fun config value => { config with pool := value },
  field "observability" readLogLevel fun config value => { config with logLevel := value }]

/-- Reads a configuration. -/
def ofDocument : Reader Config := readFields "struct ClientConfig" fields {}

end Courier.Config
