/-!
# What an engine refuses

A `CertificateFault` is a verdict on a peer's certificate or on a signature made with its key. An
`EngineError` stops a configuration from being made.
-/

namespace TlsIdentity

/-- Why a peer's certificate or signature is refused. -/
inductive CertificateFault where
  /-- The bytes are no certificate. -/
  | badEncoding
  /-- The time of the check is after the certificate's last. -/
  | expired
  /-- The time of the check is before the certificate's first. -/
  | notValidYet
  /-- No chain leads to a trust anchor. -/
  | unknownIssuer
  /-- The certificate is for other names. -/
  | notValidForName
  /-- The signature is of another kind than those of the certificate's key. -/
  | unsupportedAlgorithm
  /-- The signature was not made by the certificate's key over these bytes. -/
  | badSignature
  /-- Any other reason, such as an authority's certificate at the place of a peer's. -/
  | other
  deriving DecidableEq, Repr

namespace CertificateFault

/-- The fault in one word. -/
def label : CertificateFault → String
  | .badEncoding => "BadEncoding"
  | .expired => "Expired"
  | .notValidYet => "NotValidYet"
  | .unknownIssuer => "UnknownIssuer"
  | .notValidForName => "NotValidForName"
  | .unsupportedAlgorithm => "UnsupportedSignatureAlgorithmForPublicKey"
  | .badSignature => "BadSignature"
  | .other => "Other"

end CertificateFault

/-- Why an engine refuses what it is configured with. -/
inductive EngineError where
  /-- A certificate is refused, as trust anchor or as the leaf of a credential. -/
  | certificate (fault : CertificateFault)
  /-- A credential's key is not the key of its leaf. -/
  | keyMismatch
  /-- A private key is of no known kind. -/
  | unreadableKey
  /-- The backend takes no private keys. -/
  | refusedKey
  /-- The backend has no cipher suite. -/
  | noCipherSuites
  deriving DecidableEq, Repr

namespace EngineError

/-- The error as text. -/
def message : EngineError → String
  | .certificate fault => "invalid peer certificate: " ++ fault.label
  | .keyMismatch => "keys may not be consistent: KeyMismatch"
  | .unreadableKey => "unexpected error: failed to parse private key as RSA, ECDSA, or EdDSA"
  | .refusedKey => "unexpected error: key rejected"
  | .noCipherSuites => "unexpected error: no usable cipher suites configured"

end EngineError

end TlsIdentity
