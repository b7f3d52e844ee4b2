import TlsIdentity.Configuration.Customizer
import TlsIdentity.IdentityTable
import TlsIdentity.Trust

/-!
# Profiles

A profile holds all that one party brings to its connections: the identities it presents, whom it
trusts, and how configurations are adjusted. It never changes; `Draft` makes it. From a profile come the
configuration of a client for one host, and that of a server.
-/

namespace TlsIdentity

/-- What one party brings to its connections. -/
structure Profile where
  identities : IdentityTable Credential
  trust : TrustPolicy
  /-- The anchors by which peers are verified. -/
  anchors : List TrustAnchor
  /-- The verifier that carries out `trust` over `anchors`. -/
  verifier : ServerVerifier CertificateFault
  customizers : CustomizerChain
  backend : Backend
  /-- Whether protocols that ask may use unsafe cipher suites. -/
  allowsUnsafeSuites : Bool
  /-- The label under which certificates are to be measured. -/
  meterLabel : Option String

namespace Profile

/-! ## Identities -/

/-- The credential to present to a peer known as `host`. That there is none is reported. -/
def find (profile : Profile) (host : String) : Reported (Option Credential) :=
  match profile.identities.find? host with
  | some credential => pure (some credential)
  | none => do
    Reported.report (.noIdentityFor host)
    return none

/-- The credential for a client that indicated `name`; one that indicated none gets the fallback. -/
def findIndicated (profile : Profile) (name : Option String) : Reported (Option Credential) :=
  profile.find (name.getD HostPattern.anyText)

/-! ## Making configurations -/

/-- Configurations are made only with a usable backend. -/
def requireSuites (profile : Profile) : Except ConfigError Unit :=
  if profile.backend.isUsable then .ok () else .error (.engine .noCipherSuites)

/-- The configuration of a client for connecting to `host`. -/
def clientConfig (profile : Profile) (host : String) : Attempt ConfigError ClientConfig := do
  let identity ← ExceptT.lift (profile.find host)
  Attempt.ofExcept profile.requireSuites
  return {
    settings := profile.customizers.applyClient {}
    backend := profile.backend
    verifier := profile.verifier
    identity := identity }

/-- The verifier that `auth` demands for clients, by the profile's anchors. -/
def clientVerifier (profile : Profile) (engine : Engine) (auth : ClientAuth) :
    Except ConfigError (Option ClientVerifier) := do
  match auth with
  | .disabled => return none
  | .optional =>
    return some (← (engine.clientVerifier profile.backend profile.anchors false).mapError .verifier)
  | .enabled =>
    return some (← (engine.clientVerifier profile.backend profile.anchors true).mapError .verifier)

/-- The configuration of a server. -/
def serverConfig (profile : Profile) (engine : Engine) (auth : ClientAuth) :
    Except ConfigError ServerConfig := do
  profile.requireSuites
  let clientVerifier ← profile.clientVerifier engine auth
  return {
    settings := profile.customizers.applyServer {}
    backend := profile.backend
    clientVerifier := clientVerifier
    identityFor := profile.findIndicated }

end Profile

end TlsIdentity
