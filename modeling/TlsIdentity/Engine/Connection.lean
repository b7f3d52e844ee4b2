import TlsIdentity.Engine.Backend
import TlsIdentity.Engine.Fault
import TlsIdentity.Credential

/-!
# Connections

What comes of a handshake. Either both sides know of a connection, or each has a fault of its own: usually
one side finds it and alerts the other.
-/

namespace TlsIdentity

/-! ## What can go wrong -/

/-- What one side tells the other when it gives up. -/
inductive Alert where
  | accessDenied
  | badCertificate
  | certificateExpired
  | certificateRequired
  | certificateUnknown
  | decryptError
  | handshakeFailure
  | noApplicationProtocol
  | protocolVersion
  | unknownAuthority
  deriving DecidableEq, Repr

/-- What one side sees of a handshake that failed. -/
inductive HandshakeFault where
  /-- The other side gave up. -/
  | alerted (alert : Alert)
  /-- The other side gave up without saying so, and this one still waits. -/
  | unanswered
  /-- The other side's certificate is refused. -/
  | certificate (fault : CertificateFault)
  /-- The other side speaks no version that this one does. -/
  | noCommonVersion
  /-- There is no credential to present. -/
  | noIdentity
  /-- The key of the credential signs by no scheme that the other side takes, which was found when speaking
      `version`. -/
  | cannotSign (version : TlsVersion)
  /-- The other side wants other application protocols. -/
  | noCommonProtocol
  /-- The other side presents no certificate. -/
  | noClientCertificate
  deriving DecidableEq, Repr

/-- Why no connection comes to be. -/
inductive ConnectError where
  /-- One side's fragment size is out of bounds, and the handshake does not begin. -/
  | fragmentSize
  /-- The handshake fails. -/
  | refused (client server : HandshakeFault)
  deriving DecidableEq, Repr

/-- What is said when a connection cannot be begun because of a fragment size. -/
def ConnectError.fragmentSizeMessage : String :=
  "the supplied max_fragment_size was too small or large"

/-- What the other side is told when a certificate is refused. -/
def CertificateFault.alert : CertificateFault → Alert
  | .badEncoding => .badCertificate
  | .expired => .certificateExpired
  | .notValidYet => .certificateExpired
  | .unknownIssuer => .unknownAuthority
  | .notValidForName => .badCertificate
  | .unsupportedAlgorithm => .decryptError
  | .badSignature => .decryptError
  | .other => .certificateUnknown

/-! ## Connections -/

/-- What both sides know of a connection. -/
structure Connection where
  version : TlsVersion
  /-- The chain that the server presented. -/
  serverChain : List Certificate
  /-- The chain that the client presented, if it did. -/
  clientChain : Option (List Certificate)
  /-- The name that the client indicated. -/
  indicated : Option String
  /-- The application protocol. -/
  protocol : Option String
  deriving DecidableEq, Repr

end TlsIdentity
