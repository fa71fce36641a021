import Courier.CommandLine.Words

/-!
# Invocations

The commands: `get` sends a request for a URL, `ws` opens a WebSocket and exchanges one message, and
`help` explains them.  In front of a command a configuration file may be named.
-/

namespace Courier.CommandLine

/-- Credentials for a proxy. -/
structure Credentials where
  /-- User. -/
  username : String
  password : String
deriving DecidableEq, Repr

inductive Command where
  /-- Sends a request for a URL, following redirects if told so, through a proxy if one is named. -/
  | get (url : String) (follow : Bool) (proxy : Option String) (credentials : Option Credentials)
  /-- Opens a WebSocket and sends a message. -/
  | webSocket (url message : String)
deriving DecidableEq, Repr

/-- A command with the configuration file it is run under. -/
structure Invocation where
  /-- Path of the file. -/
  configPath : Option String
  command : Command
deriving DecidableEq, Repr

/-- The words in front of a command. -/
def leadingGrammar : Grammar where
  flags := [{ long := "config", short := some 'c', kind := .someText }]
  isLeading := true

/-- The words of a request. -/
def getGrammar : Grammar where
  flags := [
    { long := "follow", kind := .nothing }, { long := "proxy" }, { long := "proxy-user" },
    { long := "proxy-pass" }]
  operands := 1

/-- The words of a WebSocket. -/
def webSocketGrammar : Grammar where
  flags := [{ long := "message", short := some 'm' }]
  operands := 1

/-- The message sent when none is given. -/
def standardMessage : String := "ping"

/-- The command of the words of a request: a password needs a user and a user needs a proxy. -/
def Command.ofGetWords (read : WordsRead) : Except Refusal Command :=
  let proxy := read.value? "proxy"
  let user := read.value? "proxy-user"
  let password := read.value? "proxy-pass"
  if (user.isSome && proxy.isNone) || (password.isSome && user.isNone) then .error .misuse
  else
    match read.operands with
    | [url] =>
      let credentials := match user, password with
        | some username, some password => some { username, password }
        | _, _ => none
      .ok (.get url (read.has "follow") proxy credentials)
    | _ => .error .misuse

/-- The command of the words of a WebSocket. -/
def Command.ofWebSocketWords (read : WordsRead) : Except Refusal Command :=
  match read.operands with
  | [url] => .ok (.webSocket url ((read.value? "message").getD standardMessage))
  | _ => .error .misuse

/-- What asking for help comes to; one command may be named. -/
def helpRefusal : List String → Refusal
  | [] | ["get"] | ["ws"] | ["help"] => .help
  | _ => .misuse

/-- Reads the words of a command line. -/
def Invocation.ofWords (words : List String) : Except Refusal Invocation := do
  let (lead, rest) ← leadingGrammar.readWords {} words
  let configPath := lead.value? "config"
  match rest with
  | "get" :: rest =>
    return { configPath, command := ← Command.ofGetWords (← getGrammar.readWords {} rest).1 }
  | "ws" :: rest =>
    let (read, _) ← webSocketGrammar.readWords {} rest
    return { configPath, command := ← Command.ofWebSocketWords read }
  | "help" :: rest => throw (helpRefusal rest)
  | _ => throw .misuse

end Courier.CommandLine
