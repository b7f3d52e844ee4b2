import TlsIdentity.Engine
import TlsIdentity.Handshake
import TlsIdentity.HostName.Pattern

/-!
# Engines over a catalogue

An engine that knows a fixed catalogue of certificates, each with what it says: its names, its issuer,
its time of validity and its key. It recognises certificates and keys by their bytes, so it needs no
cryptography. A chain is judged in this order: the leaf must be known, valid at the time, no authority,
issued under one of the anchors, and for a server of the right name. Certificates that are not needed on
the way to an anchor are not judged, but where no way is found an unknown one among them is the fault.
-/

namespace TlsIdentity

/-- A name that a certificate is for. -/
inductive SubjectName where
  | host (pattern : HostPattern)
  | ipv4 (address : IPv4)
  | ipv6 (address : IPv6)
  deriving DecidableEq

/-- Whether a certificate with this name is for `peer`. -/
def SubjectName.isFor (name : SubjectName) (peer : PeerName) : Bool :=
  match name, peer with
  | .host pattern, .dns text => pattern.covers (HostName.canonical text)
  | .ipv4 address, .ipv4 wanted => address = wanted
  | .ipv6 address, .ipv6 wanted => address = wanted
  | _, _ => false

/-- The schemes by which a key of a kind signs; an elliptic-curve key is one for P-256. -/
def KeyAlgorithm.schemes : KeyAlgorithm → List SignatureScheme
  | .ecdsa => [0x0403]
  | .ed25519 => [0x0807]
  | .rsa => [0x0806, 0x0805, 0x0804, 0x0601, 0x0501, 0x0401]

/-- A certificate and what it says. -/
structure CatalogueEntry where
  name : String
  certificate : Certificate
  /-- The kind of the certificate's key. -/
  algorithm : KeyAlgorithm
  /-- The certificate's key, in each encoding in which it is stored. -/
  keys : List PrivateKey
  subjects : List SubjectName
  /-- The entry that issued this one; itself if it is self-signed. -/
  issuer : String
  isAuthority : Bool
  /-- The first second of validity. -/
  notBefore : Nat
  /-- The last second of validity. -/
  notAfter : Nat

namespace CatalogueEntry

/-- The entry's key once it is loaded. -/
def signingKey (entry : CatalogueEntry) : SigningKey :=
  { name := entry.name, algorithm := entry.algorithm }

/-- Whether the entry's key, where it is in `encoding`, may be labelled as being in `label`. An
    elliptic-curve key in PKCS #8 may be labelled as SEC 1; every other label must be right. -/
def admitsLabel (entry : CatalogueEntry) (encoding label : KeyEncoding) : Bool :=
  label = encoding || (entry.algorithm = .ecdsa && encoding = .pkcs8 && label = .sec1)

/-- Whether a stored key is the entry's: it begins with the bytes of the entry's key. These say themselves
    where they end, and what is stored after them is not read. -/
def hasKey (entry : CatalogueEntry) (key : PrivateKey) : Bool :=
  entry.keys.any fun own => own.der.isPrefixOf key.der && entry.admitsLabel own.encoding key.encoding

end CatalogueEntry

/-- The certificates that an engine knows. -/
abbrev Catalogue := List CatalogueEntry

namespace Catalogue

/-! ## Look-up -/

/-- The entry of a name. -/
def named? (catalogue : Catalogue) (name : String) : Option CatalogueEntry :=
  catalogue.find? (·.name = name)

/-- The entry of a certificate. -/
def known? (catalogue : Catalogue) (certificate : Certificate) : Option CatalogueEntry :=
  catalogue.find? (·.certificate = certificate)

/-- Whether a certificate has an entry. -/
def knows (catalogue : Catalogue) (certificate : Certificate) : Bool :=
  (catalogue.known? certificate).isSome

/-! ## Chains -/

/-- Whether an entry is issued under one of the anchors, directly or through at most `depth` of the
    intermediate certificates. -/
def isAnchored (catalogue : Catalogue) (anchors : List TrustAnchor)
    (intermediates : List Certificate) (depth : Nat) (entry : CatalogueEntry) : Bool :=
  match catalogue.named? entry.issuer with
  | none => false
  | some issuer =>
    anchors.contains (.certificate issuer.certificate) ||
      match depth with
      | 0 => false
      | depth + 1 =>
        issuer.isAuthority && intermediates.contains issuer.certificate
          && catalogue.isAnchored anchors intermediates depth issuer

/-- The judgement of a chain for any name: the leaf's entry, or the first thing wrong with it. -/
def checkChain (catalogue : Catalogue) (anchors : List TrustAnchor) (leaf : Certificate)
    (intermediates : List Certificate) (time : Nat) : Except CertificateFault CatalogueEntry :=
  match catalogue.known? leaf with
  | none => .error .badEncoding
  | some entry =>
    if time < entry.notBefore then .error .notValidYet
    else if entry.notAfter < time then .error .expired
    else if entry.isAuthority then .error .other
    else if catalogue.isAnchored anchors intermediates intermediates.length entry then .ok entry
    else if intermediates.all catalogue.knows then .error .unknownIssuer
    else .error .badEncoding

/-- The judgement of a server's chain. -/
def checkServer (catalogue : Catalogue) (anchors : List TrustAnchor) (question : ChainQuestion) :
    Except CertificateFault Unit := do
  let entry ← catalogue.checkChain anchors question.leaf question.intermediates question.time
  if entry.subjects.any (·.isFor question.peer) then return ()
  else throw .notValidForName

/-- The judgement of a client's chain. -/
def checkClient (catalogue : Catalogue) (anchors : List TrustAnchor) (chain : List Certificate)
    (time : Nat) : Except CertificateFault Unit :=
  match chain with
  | [] => .error .badEncoding
  | leaf :: intermediates => do
    let _ ← catalogue.checkChain anchors leaf intermediates time
    return ()

/-! ## Keys -/

/-- The judgement of a signature. Its kind is looked at before the key and the bytes. -/
def checkSignature (catalogue : Catalogue) (question : SignatureQuestion) :
    Except CertificateFault Unit :=
  match catalogue.known? question.certificate with
  | none => .error .badEncoding
  | some entry =>
    if question.signature.signer.algorithm ≠ some entry.algorithm then .error .unsupportedAlgorithm
    else if question.signature = ⟨entry.signingKey, question.message⟩ then .ok ()
    else .error .badSignature

/-- Load the key of one of the entries. -/
def loadKey (catalogue : Catalogue) (backend : Backend) (key : PrivateKey) :
    Except EngineError SigningKey :=
  if backend.refusesKeys then .error .refusedKey
  else match catalogue.find? (·.hasKey key) with
    | some entry => .ok entry.signingKey
    | none => .error .unreadableKey

/-- Whether a key is that of a certificate. -/
def matchKey (catalogue : Catalogue) (certificate : Certificate) (key : SigningKey) :
    Except EngineError Unit :=
  match catalogue.known? certificate with
  | none => .error (.certificate .badEncoding)
  | some entry => if key = entry.signingKey then .ok () else .error .keyMismatch

/-- Whether a certificate can be a trust anchor: it is one. -/
def checkAnchor (catalogue : Catalogue) (certificate : Certificate) : Except EngineError Unit :=
  match catalogue.known? certificate with
  | none => .error (.certificate .badEncoding)
  | some _ => .ok ()

/-! ## The engine -/

/-- The schemes that signatures may have. -/
def signatureSchemes : List SignatureScheme :=
  [0x0503, 0x0403, 0x0807, 0x0806, 0x0805, 0x0804, 0x0601, 0x0501, 0x0401]

/-- Whether a key signs by one of the schemes. -/
def canSign (key : SigningKey) (offered : List SignatureScheme) : Bool :=
  key.algorithm.any fun algorithm => algorithm.schemes.any offered.contains

/-- The engine that knows a catalogue. No backend is installed in place of its own. -/
def engine (catalogue : Catalogue) : Engine where
  installed := none
  builtIn := .standard
  checkAnchor := catalogue.checkAnchor
  checkServer _ := catalogue.checkServer
  checkClient _ := catalogue.checkClient
  checkSignature _ := catalogue.checkSignature
  schemes _ := signatureSchemes
  loadKey := catalogue.loadKey
  matchKey := catalogue.matchKey
  canSign := canSign
  handshake := Connection.establish canSign

/-- The credential of named entries: the chain of all of them, with the key of the first. -/
def credential? (catalogue : Catalogue) (label : String) (names : List String) : Option Credential :=
  match names with
  | [] => none
  | first :: others => do
    let leaf ← catalogue.named? first
    let issuers ← others.mapM catalogue.named?
    return {
      label := label
      chain := (leaf :: issuers).map (·.certificate)
      key := leaf.signingKey }

end Catalogue

end TlsIdentity
