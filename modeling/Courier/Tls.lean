import Courier.Config.Basic

/-!
# Negotiated protocols

The list of protocols a client offers during the TLS handshake.
-/

namespace Courier

open Http (Version)

/-- What the TLS layer is told about protocol negotiation. -/
structure TlsOptions where
  /-- Whether the protocol is negotiated at all. -/
  useAlpn : Bool
  /-- Protocols offered, preferred first. -/
  alpnVersions : List Version
deriving DecidableEq, Repr

namespace TlsOptions

/-- The protocols offered by a client that lists none: HTTP/2 comes with HTTP/1.1 to fall back
on, any other version stands alone. -/
def derivedVersions : Version → List Version
  | .http2 => [.http2, .http11]
  | version => [version]

/-- The negotiation a configuration asks for. -/
def ofConfig (config : Config) : TlsOptions where
  useAlpn := config.useAlpn
  alpnVersions :=
    if config.alpnVersions.isEmpty then derivedVersions config.protocolVersion
    else config.alpnVersions

/-- Identifiers offered, preferred first. -/
def alpnProtocols (options : TlsOptions) : List String :=
  options.alpnVersions.map Version.alpnId

end TlsOptions

end Courier
