import TlsIdentity.Engine
import TlsIdentity.HostName.Pattern

/-!
# Errors of configuration

What can stand in the way of a profile, from the first call on its draft to the configurations made from
it. A text that is refused as a host is kept as it was given, since its canonical form may hide what is
wrong with it.
-/

namespace TlsIdentity

/-- Why a draft refuses a call, or a profile cannot be made or used. -/
inductive ConfigError where
  /-- The engine refuses. -/
  | engine (error : EngineError)
  /-- A verifier cannot be made. -/
  | verifier (error : VerifierError)
  /-- A text is not the pattern, or not the single host, that is wanted; it is kept as it was given. -/
  | invalidHost (text : String)
  /-- Verification is to be off for all servers and for chosen ones. -/
  | verificationConflict
  deriving DecidableEq, Repr

namespace ConfigError

/-- The error as text. -/
def message : ConfigError → String
  | .engine error => error.message
  | .verifier error => error.message
  | .invalidHost text => "Invalid hostname " ++ Text.quoted text
  | .verificationConflict => "tls_no_verify and tls_no_verify_hosts are mutually exclusive"

end ConfigError

/-- The pattern that `text` stands for, or the error that keeps its spelling. -/
def HostPattern.ofText (text : String) : Except ConfigError HostPattern :=
  match HostPattern.ofText? text with
  | some pattern => .ok pattern
  | none => .error (.invalidHost text)

end TlsIdentity
