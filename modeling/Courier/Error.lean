import Courier.Config.Validation
import Courier.Http.RequestTarget
import Courier.Url.Basic

/-!
# Errors

Every failure is a cause; the wording of each is in one function.  A `ConnectError` comes from a
connection pool and reaches the caller unchanged, a `ClientError` is what a call of a client
fails with.
-/

namespace Courier

/-- Why a socket could not be connected. -/
inductive SocketFailure where
  /-- There is no runtime that could dial. -/
  | noRuntime
  /-- The network is unreachable. -/
  | unreachable
  /-- The peer refuses connections. -/
  | refused
  /-- Another reason, in words. -/
  | other (reason : String)
deriving DecidableEq, Repr

/-- A socket failure in words. -/
def SocketFailure.message : SocketFailure → String
  | noRuntime => "no Tokio runtime to dial on"
  | unreachable => "Network is unreachable (os error 101)"
  | refused => "Connection refused (os error 111)"
  | other reason => reason

/-- Why a host could not be resolved. -/
inductive ResolveFailure where
  /-- The name holds a null character. -/
  | nullInName
  /-- The name has no address. -/
  | noAddress
  /-- Another reason, in words. -/
  | other (reason : String)
deriving DecidableEq, Repr

/-- A resolution failure in words. -/
def ResolveFailure.message : ResolveFailure → String
  | nullInName => "file name contained an unexpected NUL byte"
  | noAddress => "no addresses found"
  | other reason => reason

/-- Why no connection was obtained. -/
inductive ConnectError where
  /-- The connection was not established in time. -/
  | timeout (endpoint : String) (timeoutMs : Nat)
  | dns (host : String) (failure : ResolveFailure)
  /-- The socket failed. -/
  | io (endpoint : String) (failure : SocketFailure)
  /-- The TLS handshake failed or there is nothing to make one. -/
  | handshake (endpoint : String) (reason : String)
  /-- All connections of the endpoint are in use and its queue is full. -/
  | poolExhausted (endpoint : String) (maxConnections maxWaiters : Nat)
  /-- The pool was shut down. -/
  | poolClosed
  /-- The connection was closed or reused before it could be used. -/
  | invalidated (endpoint : String)
  /-- The request for a connection was dropped unanswered. -/
  | abandoned
deriving DecidableEq, Repr

/-- A connect error in words. -/
def ConnectError.message : ConnectError → String
  | timeout endpoint timeoutMs =>
    "connect to " ++ endpoint ++ " timed out after " ++ toString timeoutMs ++ "ms"
  | dns host failure => "failed to resolve " ++ host ++ ": " ++ failure.message
  | io endpoint failure => "connect to " ++ endpoint ++ " failed: " ++ failure.message
  | handshake endpoint reason => "TLS handshake with " ++ endpoint ++ " failed: " ++ reason
  | poolExhausted endpoint maxConnections maxWaiters =>
    "connection pool exhausted for " ++ endpoint ++ " (max " ++ toString maxConnections
      ++ ", wait queue " ++ toString maxWaiters ++ ")"
  | poolClosed => "connection pool is shut down"
  | invalidated endpoint => "connection to " ++ endpoint ++ " was invalidated before use"
  | abandoned => "connection request was abandoned"

/-- What is wrong with the arguments of a call. -/
inductive BadArgument where
  | emptyHost
  | emptyUri
  | badUrl (text : String) (cause : Url.ParseError)
  /-- The scheme says neither plain nor secure. -/
  | unsupportedScheme (scheme : String)
  | noHost (text : String)
  /-- The URI cannot be sent as a request target. -/
  | badTarget (uri : String) (cause : Http.TargetError)
  /-- The host cannot be sent as a header value. -/
  | badHostHeader (host : String)
  /-- The sub-protocols cannot be sent as a header value. -/
  | badSubProtocols
  /-- A redirect policy's own complaint. -/
  | refused (message : String)
deriving DecidableEq, Repr

/-- A bad argument in words. -/
def BadArgument.message : BadArgument → String
  | emptyHost => "no empty host accepted"
  | emptyUri => "no empty uri accepted"
  | badUrl text cause => "invalid url " ++ text ++ ": " ++ cause.message
  | unsupportedScheme scheme => "unsupported scheme " ++ scheme
  | noHost text => "no host in " ++ text
  | badTarget uri cause => "invalid request " ++ uri ++ ": " ++ cause.message
  | badHostHeader host => "invalid host " ++ host ++ ": failed to parse header value"
  | badSubProtocols => "invalid sub-protocols: failed to parse header value"
  | refused message => message

/-- Why no client can be made. -/
inductive BadConfiguration where
  | invalid (problems : List Config.Problem)
  /-- The context may run work on several threads at once. -/
  | severalThreads
  /-- The context may block, which HTTP/2 cannot bear. -/
  | blockingHttp2
deriving DecidableEq, Repr

/-- A bad configuration in words. -/
def BadConfiguration.message : BadConfiguration → String
  | invalid problems => Config.Problem.listText problems
  | severalThreads => "cannot use HttpClient in a multi-threaded worker context"
  | blockingHttp2 => "cannot use HTTP/2 from a worker context"

/-- How an exchange of a request and a response failed. -/
inductive ExchangeFailure where
  /-- The head of the response is malformed. -/
  | malformedHead
  /-- The peer closed before the head was complete. -/
  | incompleteHead
  /-- The connection went away. -/
  | broken
deriving DecidableEq, Repr

/-- How a WebSocket peer broke the protocol. -/
inductive ProtocolViolation where
  /-- The response is not HTTP/1.1. -/
  | wrongHttpVersion
  /-- The response does not upgrade to a WebSocket. -/
  | missingUpgrade
  /-- The response does not upgrade the connection. -/
  | missingConnectionUpgrade
  /-- The response answers another key. -/
  | acceptKeyMismatch
  /-- The response picks a sub-protocol that was not offered, or none of those offered. -/
  | badSubProtocol
  /-- A header of the request is missing or misplaced. -/
  | invalidHeader
  /-- The peer closed during the handshake. -/
  | handshakeIncomplete
  /-- The response head is malformed. -/
  | malformedHead
  /-- A message was to be sent after the close. -/
  | sendAfterClosing
  /-- A message arrived after the close. -/
  | receivedAfterClosing
  /-- A reserved bit is set. -/
  | reservedBits
  /-- A frame of the peer is masked. -/
  | maskedFrame
  /-- A frame of a client is not masked. -/
  | unmaskedFrame
  /-- A control frame is fragmented. -/
  | fragmentedControl
  /-- A control frame is longer than 125 octets. -/
  | longControl
  /-- The kind of a frame is unknown. -/
  | unknownOpcode
  /-- A continuation continues nothing. -/
  | unexpectedContinue
  /-- A message starts inside another. -/
  | expectedFragment
  /-- The peer went away without a close. -/
  | resetWithoutClosing
  /-- A close frame holds one octet. -/
  | badCloseSequence
deriving DecidableEq, Repr

/-- Which limit of a WebSocket was passed. -/
inductive CapacityOverrun where
  /-- The response head has more headers than fit. -/
  | tooManyHeaders
  /-- A frame or message is too long. -/
  | messageTooLong
deriving DecidableEq, Repr

/-- What the URL of a WebSocket lacks. -/
inductive WebSocketUrlError where
  /-- There is no authority. -/
  | noHostName
  /-- The authority has no host. -/
  | emptyHostName
deriving DecidableEq, Repr

/-- How a WebSocket failed. -/
inductive WebSocketError where
  /-- The connection is closed in good order. -/
  | connectionClosed
  /-- The connection was closed before. -/
  | alreadyClosed
  /-- The connection failed, for a reason named by its kind. -/
  | io (kind : String)
  /-- A limit was passed. -/
  | capacity (overrun : CapacityOverrun)
  /-- The peer broke the protocol. -/
  | protocol (violation : ProtocolViolation)
  /-- A text is not UTF-8. -/
  | utf8
  /-- The handshake response is too large to be meant well. -/
  | attackAttempt
  /-- The URL cannot be used. -/
  | url (cause : WebSocketUrlError)
  /-- The handshake was answered with another status. -/
  | http (status : Nat)
  /-- The request cannot be written. -/
  | httpFormat
deriving DecidableEq, Repr

/-- How a response body failed. -/
inductive BodyFailure where
  /-- The body is longer than the limit. -/
  | tooLong
  /-- The body is malformed or cut short. -/
  | unreadable
deriving DecidableEq, Repr

/-- A body failure in words. -/
def BodyFailure.message : BodyFailure → String
  | tooLong => "length limit exceeded"
  | unreadable => "error reading a body from connection"

/-- Why a call of a client failed. -/
inductive ClientError where
  /-- The arguments cannot be used. -/
  | invalidArgument (cause : BadArgument)
  /-- The client cannot be made. -/
  | invalidConfiguration (cause : BadConfiguration)
  | clientClosed
  /-- No connection was obtained. -/
  | connect (cause : ConnectError)
  /-- The exchange over the connection failed. -/
  | exchange (failure : ExchangeFailure)
  /-- The WebSocket failed. -/
  | webSocket (error : WebSocketError)
  /-- The response body could not be read. -/
  | body (failure : BodyFailure)
  /-- More redirects than allowed followed one another. -/
  | tooManyRedirects (limit : UInt32) (lastUri : String)
  /-- The redirect policy broke down with a message. -/
  | redirectPolicy (message : String)
deriving DecidableEq, Repr

/-- A client error in words; failures of an exchange or a WebSocket have none of their own. -/
def ClientError.message : ClientError → String
  | invalidArgument cause => "invalid argument: " ++ cause.message
  | invalidConfiguration cause => "invalid configuration: " ++ cause.message
  | clientClosed => "client is closed"
  | connect cause => cause.message
  | exchange _ => "HTTP exchange failed"
  | webSocket _ => "WebSocket handshake failed"
  | body failure => "failed to read response body: " ++ failure.message
  | tooManyRedirects limit lastUri =>
    "too many redirects (" ++ toString limit ++ ") while fetching " ++ lastUri
  | redirectPolicy message => "redirect policy failed: " ++ message

end Courier
