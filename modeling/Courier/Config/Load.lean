import Courier.Bytes
import Courier.Config.Decode
import Courier.Config.Validation
import Courier.Toml.Parser

/-!
# Loading a configuration

A configuration file is UTF-8 text in TOML.  It is loaded in four steps, and the first one that
fails decides the error: the file is read, its text parsed, its table decoded and the
configuration validated.
-/

namespace Courier.Config

/-- Why a configuration file cannot be loaded. -/
inductive LoadError where
  /-- There is no such file. -/
  | notFound
  /-- The file is not UTF-8. -/
  | notText
  /-- The text is not TOML. -/
  | badSyntax
  /-- The table is no configuration. -/
  | badSchema (cause : SchemaError)
  /-- The configuration has problems. -/
  | invalid (problems : List Problem)
deriving Repr

/-- The complaint about an invalid configuration. -/
def invalidMessage (problems : List Problem) : String :=
  "Validation failed: " ++ Problem.listText problems

/-- Loads a configuration from the text of a file. -/
def parse (text : String) : Except LoadError Config := do
  let some document := Toml.parse? text
    | throw .badSyntax
  let config ← (ofDocument document).mapError .badSchema
  match config.problems with
  | [] => return config
  | problems => throw (.invalid problems)

/-- Loads a configuration from the content of a file, if there is one. -/
def load : Option Bytes → Except LoadError Config
  | none => .error .notFound
  | some content =>
    match content.toString? with
    | none => .error .notText
    | some text => parse text

end Courier.Config
