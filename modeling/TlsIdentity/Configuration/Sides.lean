import TlsIdentity.Configuration.Settings
import TlsIdentity.Engine.Verifier

/-!
# Configurations of both sides

All that a handshake knows of the side it is for. A configuration is made once and then used for any number of
connections, so what depends on the peer stands in it as a function.
-/

namespace TlsIdentity

/-- What a client needs to connect to one host. -/
structure ClientConfig where
  settings : ClientSettings
  backend : Backend
  verifier : ServerVerifier CertificateFault
  /-- The credential to present to a server that asks for one. -/
  identity : Option Credential

/-- What a server demands of its clients. -/
inductive ClientAuth where
  /-- Clients are not asked for a certificate. -/
  | disabled
  /-- Clients are asked; those without a certificate are admitted. -/
  | optional
  /-- Clients without a certificate are turned away. -/
  | enabled
  deriving DecidableEq, Repr

/-- What a server needs to accept connections. -/
structure ServerConfig where
  settings : ServerSettings
  backend : Backend
  /-- How clients are judged; absent if they are not asked for a certificate. -/
  clientVerifier : Option ClientVerifier
  /-- The credential to present to a client that indicated this name, or none. -/
  identityFor : Option String → Reported (Option Credential)

end TlsIdentity
