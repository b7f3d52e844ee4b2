import TlsIdentity.Credential
import TlsIdentity.Engine.Backend
import TlsIdentity.Engine.Fault
import TlsIdentity.Event

/-!
# Verifiers

A client decides about a server with a verifier: it judges the chain that the server presents, and the
signature that proves that the server holds the key of its leaf. `sparing` turns a verifier into one
that does not judge the chains of some hosts; it leaves signatures alone. `inquirer` answers every
question with the question, which shows what a verifier was asked. A server that asks its clients for
certificates has a verifier of its own kind, which also says whether a client may go without.
-/

namespace TlsIdentity

/-! ## Questions -/

/-- What a client knows when it judges a server's chain. -/
structure ChainQuestion where
  leaf : Certificate
  intermediates : List Certificate
  /-- The name by which the client reaches the server. -/
  peer : PeerName
  /-- The stapled response on revocation, empty if there is none. -/
  ocsp : List UInt8
  /-- Seconds since 1970. -/
  time : Nat
  deriving DecidableEq

/-- A signature, known by the key that made it and the bytes it was made over. -/
structure Signature where
  signer : SigningKey
  message : List UInt8
  deriving DecidableEq

/-- What a client knows when it judges a handshake signature. -/
structure SignatureQuestion where
  version : TlsVersion
  message : List UInt8
  certificate : Certificate
  signature : Signature
  deriving DecidableEq

/-- A signature scheme, by its registered number. -/
abbrev SignatureScheme := Nat

/-! ## Verifiers -/

/-- How a client judges a server; `ε` are the grounds on which it refuses one. -/
structure ServerVerifier (ε : Type) where
  /-- Judge the chain. -/
  verifyChain : ChainQuestion → Attempt ε Unit
  /-- Judge a handshake signature. -/
  verifySignature : SignatureQuestion → Except ε Unit
  /-- The schemes that signatures may have. -/
  schemes : List SignatureScheme
  /-- The names of the authorities that a server should choose its chain for, if any are told. -/
  authorityHints : Option (List String)

namespace ServerVerifier

variable {ε : Type}

/-- The verifier that accepts the chain of every host in `hosts` and asks `inner` about all others and
    about every signature. -/
def sparing (hosts : HostSet) (inner : ServerVerifier ε) : ServerVerifier ε :=
  { inner with
    verifyChain := fun question =>
      if hosts.contains question.peer.hostText then
        Attempt.report (.verificationSkipped question.peer)
      else inner.verifyChain question }

/-! ## The verifier that repeats what it is asked -/

/-- A question to a verifier. -/
inductive Question where
  | chain (question : ChainQuestion)
  | signature (question : SignatureQuestion)
  deriving DecidableEq

/-- The verifier that refuses everything on the ground of having been asked it. -/
def inquirer (schemes : List SignatureScheme) (authorityHints : Option (List String)) :
    ServerVerifier Question where
  verifyChain question := throw (.chain question)
  verifySignature question := .error (.signature question)
  schemes := schemes
  authorityHints := authorityHints

end ServerVerifier

/-- How a server judges its clients. -/
structure ClientVerifier where
  /-- Whether clients without a certificate are turned away. -/
  required : Bool
  /-- Judge a chain, leaf first, at a time. -/
  verifyChain : List Certificate → Nat → Except CertificateFault Unit
  /-- Judge a handshake signature. -/
  verifySignature : SignatureQuestion → Except CertificateFault Unit
  /-- The schemes that signatures may have. -/
  schemes : List SignatureScheme

end TlsIdentity
