/-!
# Certificates, keys and credentials

A certificate is its DER bytes; what it says is the engine's business. A credential is what one side of a
handshake presents: a chain of certificates, leaf first, and the key of the leaf.
-/

namespace TlsIdentity

/-- An X.509 certificate. -/
structure Certificate where
  der : List UInt8
  deriving DecidableEq, Repr

/-- The encodings in which a private key may be stored. SEC 1 is for elliptic-curve keys and PKCS #1 for
    RSA keys; PKCS #8 is for all kinds. -/
inductive KeyEncoding where
  | pkcs1
  | pkcs8
  | sec1
  deriving DecidableEq, Repr

/-- A private key as it is stored. -/
structure PrivateKey where
  /-- The encoding that it is labelled with. -/
  encoding : KeyEncoding
  der : List UInt8
  deriving DecidableEq, Repr

/-- The kinds of keys that sign. -/
inductive KeyAlgorithm where
  | ecdsa
  | ed25519
  | rsa
  deriving DecidableEq, Repr

/-- A private key that an engine has loaded, under the name that the engine has for it. -/
structure SigningKey where
  name : String
  /-- The kind of signatures that it makes; a key that is held only to be told apart makes none. -/
  algorithm : Option KeyAlgorithm
  deriving DecidableEq, Repr

/-- A certificate chain, leaf first, with the key of its leaf. -/
structure Credential where
  /-- The name under which its owner knows it; one loaded from files has none. -/
  label : Option String
  chain : List Certificate
  key : SigningKey
  deriving DecidableEq, Repr

end TlsIdentity
