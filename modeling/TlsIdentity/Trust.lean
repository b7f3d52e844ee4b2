import TlsIdentity.ConfigError

/-!
# Trust in servers

A trust policy says which servers a client verifies: all of them, none, or all but chosen hosts. From the
policy, the trust anchors and the backend comes the verifier that connections use. Leaving out the
verification of chains never leaves out that of handshake signatures.
-/

namespace TlsIdentity

/-- Which servers are believed without their chains being verified. -/
inductive TrustPolicy where
  /-- Every server is verified. -/
  | verifyAll
  /-- No server is verified. -/
  | skipAll
  /-- Every server is verified but these, known by their canonical names. -/
  | skipHosts (hosts : HostSet)
  deriving DecidableEq

namespace TrustPolicy

/-- Whether the chain of the server reached as `host`, in any spelling, is believed unseen. -/
def skips (policy : TrustPolicy) (host : String) : Bool :=
  match policy with
  | .verifyAll => false
  | .skipAll => true
  | .skipHosts hosts => hosts.contains (HostName.canonical host)

/-- The verifier that carries out the policy. A policy that leaves servers unverified is reported. -/
def verifier (policy : TrustPolicy) (engine : Engine) (backend : Backend)
    (anchors : List TrustAnchor) : Attempt ConfigError (ServerVerifier CertificateFault) :=
  let verifying := Attempt.ofExcept ((engine.serverVerifier backend anchors).mapError .verifier)
  match policy with
  | .verifyAll => verifying
  | .skipAll => do
    Attempt.report .noVerification
    return engine.signatureVerifier backend
  | .skipHosts hosts => do
    Attempt.report (.noVerificationOf hosts)
    return .sparing hosts (← verifying)

end TrustPolicy

/-! ## Trust anchors -/

/-- The anchors that a list of certificates stands for: each of them, or the web's authorities if there
    is none. The first certificate that cannot be an anchor is an error. -/
def Engine.anchors (engine : Engine) (trusted : List Certificate) :
    Except EngineError (List TrustAnchor) :=
  if trusted = [] then .ok [.webAuthorities]
  else trusted.mapM fun certificate => do
    engine.checkAnchor certificate
    return .certificate certificate

end TlsIdentity
