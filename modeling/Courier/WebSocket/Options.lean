import Courier.Config.Basic
import Courier.Host
import Courier.Http.Headers

/-!
# Options of a WebSocket

Where a WebSocket is to be opened and what the handshake is to say.  What an option leaves open
is taken from the configuration of the client.
-/

namespace Courier.WebSocket

open Http (Headers)

inductive ProtocolVersion where
  /-- Version 8 -/
  | v8
  /-- Version 13 -/
  | v13
deriving DecidableEq, Repr

/-- A version as the handshake names it. -/
def ProtocolVersion.name : ProtocolVersion → String
  | v8 => "8"
  | v13 => "13"

/-- What is asked of a WebSocket. -/
structure Options where
  /-- Path and query. -/
  uri : String
  /-- Host; otherwise the default one. -/
  host : Option String := none
  /-- Port; otherwise the default one. -/
  port : Option UInt16 := none
  /-- Whether the connection is secured; otherwise as requests are. -/
  secure : Option Bool := none
  /-- Further headers. -/
  headers : Headers := .empty
  version : ProtocolVersion := .v13
  /-- Sub-protocols offered, preferred first. -/
  subProtocols : List String := []
deriving DecidableEq, Repr

/-- Where a WebSocket is opened. -/
structure Destination where
  /-- Host, without brackets. -/
  host : String
  port : UInt16
  secure : Bool
deriving DecidableEq, Repr

namespace Options

/-- Adds a header. -/
def header (options : Options) (name : String) (value : Bytes) : Options :=
  { options with headers := options.headers.append name value }

/-- Takes over a header map: its names replace those set so far. -/
def withHeaders (options : Options) (headers : Headers) : Options :=
  { options with headers := options.headers.extend headers }

/-- Where options lead under a configuration. -/
def destination (options : Options) (config : Config) : Destination where
  host := bareHost (options.host.getD config.defaultHost)
  port := options.port.getD config.defaultPort
  secure := options.secure.getD config.secure

end Options

def Destination.url (destination : Destination) (uri : String) : String :=
  (if destination.secure then "wss" else "ws") ++ "://" ++ authorityHost destination.host ++ ":"
    ++ toString destination.port ++ uri

end Courier.WebSocket
