import TlsIdentity.ConfigError
import TlsIdentity.Files.Source

/-!
# Loading certificates and credentials

A credential comes from a file with its private key and a file with its certificates. It is loaded only
if both can be read, the engine takes the key, and the key belongs to the first certificate.
-/

namespace TlsIdentity

/-- Why a credential or trust anchors cannot be loaded, or options cannot be applied. -/
inductive LoadError where
  /-- A file cannot be read. -/
  | unreadable (error : ReadError)
  /-- A file is not a sequence of sections. -/
  | malformed (error : PemError)
  /-- The engine refuses what was loaded. -/
  | engine (error : EngineError)
  /-- A draft refuses what was loaded. -/
  | config (error : ConfigError)
  /-- The file has no private key. -/
  | noPrivateKey (path : String)
  /-- The file has no certificate. -/
  | noCertificates (path : String)
  /-- Of a key file and a certificate file only one is given. -/
  | incompleteKeyPair
  deriving DecidableEq, Repr

namespace LoadError

/-- The error as text. -/
def message : LoadError → String
  | .unreadable error => error.message
  | .malformed error => error.message
  | .engine error => error.message
  | .config error => error.message
  | .noPrivateKey path => "No private key found in " ++ path
  | .noCertificates path => "No certificate found in " ++ path
  | .incompleteKeyPair => "--tls-key-path and --tls-cert-path must be given together"

end LoadError

namespace FileSource

/-! ## Reading -/

/-- The certificates in a file. -/
def readCertificates (files : FileSource) (path : String) : Except LoadError (List Certificate) := do
  let contents ← (files.read path).mapError .unreadable
  (files.certificates contents).mapError .malformed

/-- The private key in a file. -/
def readPrivateKey (files : FileSource) (path : String) : Except LoadError PrivateKey := do
  let contents ← (files.read path).mapError .unreadable
  match ← (files.privateKey contents).mapError .malformed with
  | some key => return key
  | none => throw (.noPrivateKey path)

/-! ## Loading -/

/-- The certificates in a file. That there are none is reported, and no error. -/
def loadCertificates (files : FileSource) (path : String) : Attempt LoadError (List Certificate) := do
  let certificates ← Attempt.ofExcept (files.readCertificates path)
  if certificates = [] then Attempt.report (.noCertificates path)
  return certificates

/-- The credential of a key and the certificates that go with it. -/
def joinCredential (engine : Engine) (backend : Backend) (key : PrivateKey) (leaf : Certificate)
    (others : List Certificate) : Except LoadError Credential := do
  let loaded ← (engine.loadKey backend key).mapError .engine
  (engine.matchKey leaf loaded).mapError .engine
  return { label := none, chain := leaf :: others, key := loaded }

/-- The credential in a file with its key and a file with its certificates, leaf first. -/
def loadCredential (files : FileSource) (engine : Engine) (backend : Backend)
    (keyPath certPath : String) : Attempt LoadError Credential := do
  let key ← Attempt.ofExcept (files.readPrivateKey keyPath)
  match ← files.loadCertificates certPath with
  | [] => throw (.noCertificates certPath)
  | leaf :: others =>
    let credential ← Attempt.ofExcept (joinCredential engine backend key leaf others)
    Attempt.report (.credentialLoaded keyPath certPath)
    return credential

end FileSource

end TlsIdentity
