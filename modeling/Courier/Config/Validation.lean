import Courier.Config.Basic

/-!
# Validation

The contradictions and values out of range that a configuration can hold.  All problems are
reported, in one fixed order; a configuration is accepted exactly when there is none.
-/

namespace Courier.Config

/-- A reason to refuse a configuration. -/
inductive Problem where
  /-- Protocol negotiation without TLS. -/
  | alpnWithoutTls
  | zeroDefaultPort
  /-- No WebSocket frame would be accepted. -/
  | zeroFrameSize
  | emptyProxyHost
  | zeroProxyPort
  /-- The pool could open no connection. -/
  | zeroPoolSize
  /-- No connection could be established in time. -/
  | zeroConnectTimeout
deriving DecidableEq, Repr

namespace Problem

/-- The setting at fault. -/
def field : Problem → String
  | .alpnWithoutTls => "use_alpn"
  | .zeroDefaultPort => "default_port"
  | .zeroFrameSize => "max_websocket_frame_size"
  | .emptyProxyHost => "proxy.host"
  | .zeroProxyPort => "proxy.port"
  | .zeroPoolSize => "pool.max_pool_size"
  | .zeroConnectTimeout => "pool.connect_timeout_ms"

/-- What is asked of the setting. -/
def message : Problem → String
  | .alpnWithoutTls => "must enable SSL when using ALPN"
  | .zeroDefaultPort | .zeroProxyPort => "must be non-zero"
  | .emptyProxyHost => "must not be empty"
  | .zeroFrameSize | .zeroPoolSize | .zeroConnectTimeout => "must be greater than zero"

/-- A problem in words. -/
def text (problem : Problem) : String := problem.field ++ ": " ++ problem.message

/-- Several problems in words. -/
def listText (problems : List Problem) : String := ", ".intercalate (problems.map text)

end Problem

/-- A problem that arises under a condition. -/
private def problemWhen (condition : Bool) (problem : Problem) : List Problem :=
  if condition then [problem] else []

def proxyProblems (proxy : Proxy) : List Problem :=
  problemWhen proxy.host.isEmpty .emptyProxyHost ++ problemWhen (proxy.port == 0) .zeroProxyPort

def problems (config : Config) : List Problem :=
  problemWhen (config.useAlpn && !config.secure) .alpnWithoutTls
    ++ problemWhen (config.defaultPort == 0) .zeroDefaultPort
    ++ problemWhen (config.maxWebSocketFrameSize == 0) .zeroFrameSize
    ++ (config.proxy.map proxyProblems).getD []
    ++ problemWhen (config.pool.maxPoolSize == 0) .zeroPoolSize
    ++ problemWhen (config.pool.connectTimeoutMs == 0) .zeroConnectTimeout

/-- A configuration a client can be built from. -/
def Valid (config : Config) : Prop := config.problems = []

instance (config : Config) : Decidable config.Valid := inferInstanceAs (Decidable (_ = _))

end Courier.Config
