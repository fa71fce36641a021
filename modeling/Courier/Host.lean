/-!
# Host name forms

A host is carried bare (`::1`, `example.com`), so that it can be resolved and dialed.  Brackets
return only where a host is written into an authority: a `Host` header, an absolute URI, the URL
of a WebSocket.
-/

namespace Courier

/-- A host without the one pair of brackets around an IPv6 literal. -/
def bareHost (host : String) : String :=
  match host.toList with
  | '[' :: rest =>
    match rest.reverse with
    | ']' :: inner => String.ofList inner.reverse
    | _ => host
  | _ => host

/-- A host as written inside an authority: one that holds a colon is bracketed, unless it opens
with a bracket already. -/
def authorityHost (host : String) : String :=
  let chars := host.toList
  if chars.contains ':' && chars.head? != some '[' then "[" ++ host ++ "]" else host

/-- `host[:port]`, without a port that is the default one. -/
def authority (host : String) (port defaultPort : UInt16) : String :=
  if port == defaultPort then authorityHost host
  else authorityHost host ++ ":" ++ toString port

/-- The port of plain traffic where none is named. -/
def plainPort : UInt16 := 80

/-- The port of secure traffic where none is named. -/
def securePort : UInt16 := 443

/-- The port that an authority leaves out. -/
def defaultPort (secure : Bool) : UInt16 := if secure then securePort else plainPort

end Courier
