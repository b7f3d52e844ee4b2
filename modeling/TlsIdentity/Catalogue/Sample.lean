import TlsIdentity.Catalogue
import TlsIdentity.Files.Pem

/-!
# Samples

A sample is a certificate and its key as texts, together with what the certificate says. The texts can be
put into files; read back they give the catalogue entry.
-/

namespace TlsIdentity

/-- A certificate and its key as texts. -/
structure Sample where
  name : String
  algorithm : KeyAlgorithm := .ecdsa
  certText : String
  keyText : String
  /-- The key in an encoding of its own kind. -/
  legacyKeyText : Option String := none
  subjects : List SubjectName
  /-- The name of the sample that issued this one. -/
  issuer : String
  isAuthority : Bool := false
  /-- The first second of validity: the beginning of 1975. -/
  notBefore : Nat := 157766400
  /-- The last second of validity: the beginning of 4096. -/
  notAfter : Nat := 67090118400

namespace Sample

/-- The private keys that a text holds first. -/
def keyOf (text : String) : Option PrivateKey :=
  match Pem.privateKey (Text.encode text) with
  | .ok key => key
  | .error _ => none

/-- The entry of a sample whose text holds this certificate. -/
def entryWith (sample : Sample) (certificate : Certificate) : CatalogueEntry where
  name := sample.name
  certificate := certificate
  algorithm := sample.algorithm
  keys := (sample.keyText :: sample.legacyKeyText.toList).filterMap keyOf
  subjects := sample.subjects
  issuer := sample.issuer
  isAuthority := sample.isAuthority
  notBefore := sample.notBefore
  notAfter := sample.notAfter

/-- The entry that a sample's texts give. -/
def entry? (sample : Sample) : Option CatalogueEntry :=
  match Pem.certificates (Text.encode sample.certText) with
  | .ok (certificate :: _) => some (sample.entryWith certificate)
  | _ => none

end Sample

end TlsIdentity
