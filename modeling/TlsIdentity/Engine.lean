import TlsIdentity.Configuration.Sides
import TlsIdentity.Engine.Connection

/-!
# TLS engines

The engine does the cryptography, knows what certificates say and runs handshakes. The library asks it the
questions below and depends on nothing else about it, so its laws hold for every engine. Where a law rests on
something that engines do, this is a named property of the engine.
-/

namespace TlsIdentity

/-! ## Trust anchors -/

/-- What a chain may end in. -/
inductive TrustAnchor where
  /-- A certificate that was chosen. -/
  | certificate (certificate : Certificate)
  /-- The authorities that web browsers trust. -/
  | webAuthorities
  deriving DecidableEq, Repr

/-- A verifier cannot be made without trust anchors. -/
inductive VerifierError where
  | noTrustAnchors
  deriving DecidableEq, Repr

/-- The error as text. -/
def VerifierError.message : VerifierError → String
  | .noTrustAnchors => "no root trust anchors were provided"

/-! ## Engines -/

/-- The questions that an engine answers. -/
structure Engine where
  /-- Which backend has been installed for the whole process? -/
  installed : Option Backend
  /-- Which backend comes with the engine? -/
  builtIn : Backend
  /-- Can this certificate be a trust anchor? -/
  checkAnchor : Certificate → Except EngineError Unit
  /-- Does this server's chain lead to one of the anchors, and is it for this name and time? -/
  checkServer : Backend → List TrustAnchor → ChainQuestion → Except CertificateFault Unit
  /-- Does this client's chain, leaf first, lead to one of the anchors at this time? -/
  checkClient : Backend → List TrustAnchor → List Certificate → Nat → Except CertificateFault Unit
  /-- Was this signature made by the certificate's key over the message? -/
  checkSignature : Backend → SignatureQuestion → Except CertificateFault Unit
  /-- Which schemes may signatures have? -/
  schemes : Backend → List SignatureScheme
  /-- Load a private key. -/
  loadKey : Backend → PrivateKey → Except EngineError SigningKey
  /-- Is this key the key of the certificate? -/
  matchKey : Certificate → SigningKey → Except EngineError Unit
  /-- Does this key sign by one of the schemes? -/
  canSign : SigningKey → List SignatureScheme → Bool
  /-- What comes of the handshake between two configurations, where the client reaches the server by this name
      at this time? -/
  handshake : ClientConfig → ServerConfig → PeerName → Nat → Attempt ConnectError Connection

namespace Engine

/-- The backend in use where none is chosen: the one installed for the process, or else the engine's own. -/
def defaultBackend (engine : Engine) : Backend :=
  engine.installed.getD engine.builtIn

/-- The verifier that judges a server's chain by `anchors`. -/
def serverVerifier (engine : Engine) (backend : Backend) (anchors : List TrustAnchor) :
    Except VerifierError (ServerVerifier CertificateFault) :=
  if anchors = [] then .error .noTrustAnchors
  else .ok
    { verifyChain := fun question => Attempt.ofExcept (engine.checkServer backend anchors question)
      verifySignature := engine.checkSignature backend
      schemes := engine.schemes backend
      authorityHints := none }

/-- The verifier that accepts every chain and judges signatures as `engine` does. -/
def signatureVerifier (engine : Engine) (backend : Backend) : ServerVerifier CertificateFault where
  verifyChain _ := pure ()
  verifySignature := engine.checkSignature backend
  schemes := engine.schemes backend
  authorityHints := none

/-- The verifier that judges a client by `anchors`. -/
def clientVerifier (engine : Engine) (backend : Backend) (anchors : List TrustAnchor) (required : Bool) :
    Except VerifierError ClientVerifier :=
  if anchors = [] then .error .noTrustAnchors
  else .ok
    { required := required
      verifyChain := engine.checkClient backend anchors
      verifySignature := engine.checkSignature backend
      schemes := engine.schemes backend }

end Engine

end TlsIdentity
