import Courier.CommandLine.Invocation
import Courier.CommandLine.Summary
import Courier.Config.Load
import Courier.Rehearsal.Schedule

/-!
# Outcomes

What running a command comes to on a network.  The configuration is read first, then the arguments
are looked at, and only then anything is dialed; the first complaint ends the run.
-/

namespace Courier.CommandLine

open Rehearsal (Report Reply Event Step)

/-- Why a command fails. -/
inductive Failure where
  /-- The configuration file cannot be used. -/
  | config (error : Config.LoadError)
  /-- The proxy is not given as a host and a port. -/
  | proxyShape
  | proxyPort
  /-- The URL cannot be read. -/
  | url (error : Url.ParseError)
  | noHost
  /-- A call of the client failed. -/
  | client (error : ClientError)
  /-- The open WebSocket failed. -/
  | webSocket (error : WebSocketError)
deriving Repr

/-- A failure in words. -/
def Failure.message : Failure → String
  | config .notFound => "the configuration file cannot be read"
  | config .notText => "the configuration file is not UTF-8"
  | config .badSyntax => "the configuration file is not TOML"
  | config (.badSchema cause) => cause.message
  | config (.invalid problems) => Config.invalidMessage problems
  | proxyShape => "proxy must be HOST:PORT"
  | proxyPort => "the port of the proxy is no number below 65536"
  | url error => error.message
  | noHost => "url has no host"
  | client error => error.message
  | webSocket _ => "the WebSocket failed"

/-- What a command comes to. -/
inductive Outcome where
  /-- It cannot start. -/
  | refused (refusal : Refusal)
  | failed (failure : Failure)
  /-- A response has arrived. -/
  | response (response : Response)
  /-- A reply has arrived over a WebSocket. -/
  | reply (url text : String)
  /-- It waits for a peer that does not speak. -/
  | waiting

/-- The code a command exits with. -/
def Outcome.exitCode : Outcome → Nat
  | refused .help | .response _ | reply .. | waiting => 0
  | refused .misuse => 2
  | failed _ => 1

/-- What a command prints; the request is known by its identity. -/
def Outcome.summary? (outcome : Outcome) (requestId : String) : Option Summary :=
  match outcome with
  | .response answer => some (.ofResponse requestId answer)
  | .reply url text => some (.ofReply url text)
  | _ => none

/-- The proxy of a command line. -/
def proxyOf? (text : String) (credentials : Option Credentials) : Except Failure Proxy := do
  let some (host, portText) := Ascii.splitLast ':' text
    | throw .proxyShape
  let some port := Ascii.port? portText
    | throw .proxyPort
  return {
    host
    port
    username := credentials.map (·.username)
    password := credentials.map (·.password) }

/-- The first call that failed in a rehearsal. -/
def firstFailure? (report : Report) : Option ClientError :=
  report.steps.findSome? fun step =>
    (replyFailure? step.reply) <|> step.events.findSome? eventFailure?
where
  /-- The failure that a reply tells of. -/
  replyFailure? : Reply → Option ClientError
    | .failed error | .handler (.error error) _ => some error
    | _ => none
  /-- The failure that an event tells of. -/
  eventFailure? : Event → Option ClientError
    | .sent _ (.error error) _ | .wsError _ _ error _ => some error
    | _ => none

/-- The steps of a request. -/
def getSteps (config : Config) (url : String) (follow : Bool) : List Step :=
  let changes : Rehearsal.Changes := if follow then { follow := some true } else {}
  [{ action := .client "client" none config none },
   { action := .dispatch "request" "client" "GET" (.absolute url) },
   { action := .set "request" changes },
   { action := .send "request" }]

/-- What a request comes to. -/
def getOutcome (report : Report) : Outcome :=
  match firstFailure? report with
  | some error => .failed (.client error)
  | none =>
    let response? := report.steps.findSome? fun step => step.events.findSome? fun event =>
      match event with
      | .sent _ (.ok (response, _)) _ => some response
      | _ => none
    (response?.map .response).getD .waiting

/-- The options of a WebSocket to a URL. -/
def webSocketOptions (url : Url) (host : String) : WebSocket.Options :=
  let secure := url.scheme == "wss"
  { uri := url.target
    host := some host
    port := some (url.effectivePort?.getD (defaultPort secure))
    secure := some secure }

/-- The steps of a WebSocket. -/
def webSocketSteps (config : Config) (options : WebSocket.Options) (message : String) :
    List Step := [
  { action := .client "client" none config none },
  { action := .webSocket "stream" "client" options },
  { action := .wsException "stream" "failed" },
  { action := .wsHandler "stream" "opened" },
  { action := .wsSend "stream" (.text message) },
  { action := .wsReceive "stream" }]

/-- What an exchange of messages comes to, by the replies to the steps that send and receive. -/
def messagesOutcome (url : String) : List Reply → Outcome
  | [] => .waiting
  | reply :: rest =>
    match reply with
    | .webSocketFailed error => .failed (.webSocket error)
    | .message message =>
      match message.toText? with
      | some text => .reply url text
      | none => .failed (.webSocket .utf8)
    | .ended => .reply url ""
    | _ => messagesOutcome url rest

/-- What a WebSocket comes to. -/
def webSocketOutcome (url : String) (report : Report) : Outcome :=
  match firstFailure? report with
  | some error => .failed (.client error)
  | none => messagesOutcome url (report.steps.map (·.reply))

/-- Runs a command under a configuration. -/
def Command.run (command : Command) (network : Network) (config : Config) :
    Except Failure Outcome := do
  match command with
  | .get url follow proxy credentials =>
    let config ← match proxy with
      | none => pure config
      | some text => do pure { config with proxy := some (← proxyOf? text credentials) }
    return getOutcome (Rehearsal.play network (getSteps config url follow))
  | .webSocket text message =>
    let url ← (Url.parse text).mapError .url
    let some host := url.hostText?
      | throw .noHost
    let steps := webSocketSteps config (webSocketOptions url host) message
    return webSocketOutcome text (Rehearsal.play network steps)

/-- Runs a command, given the content of the configuration file that it names, if there is one. -/
def Invocation.run (invocation : Invocation) (network : Network) (content : Option Bytes) :
    Outcome :=
  let outcome : Except Failure Outcome := do
    let config ← match invocation.configPath with
      | none => pure {}
      | some _ => (Config.load content).mapError .config
    invocation.command.run network config
  match outcome with
  | .ok outcome => outcome
  | .error failure => .failed failure

end Courier.CommandLine
