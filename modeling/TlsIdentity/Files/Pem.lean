import TlsIdentity.Credential
import TlsIdentity.Files.Base64
import TlsIdentity.Text.Quoted
import TlsIdentity.Text.Utf8

/-!
# PEM

A file holds sections, each between a line that begins it and one that ends it, both with the section's
label; between them is base64. Text outside sections is passed over. A line that begins a section inside
another one gives the section a new label and leaves what was collected.
-/

namespace TlsIdentity

/-- Why a file of sections cannot be read. -/
inductive PemError where
  /-- A line begins like the start of a section and does not end like one. -/
  | illegalStart (line : List UInt8)
  /-- The file ends inside the section with this label. -/
  | missingEnd (label : List UInt8)
  /-- What is in a section is not base64. -/
  | base64 (error : Base64Error)
  /-- Any other reason, in the words of the reader. -/
  | other (text : String)
  deriving DecidableEq, Repr

/-- The error as text. -/
def PemError.message : PemError → String
  | .illegalStart line => "illegal section start: " ++ Text.quoted (Text.decodeLossy line)
  | .missingEnd label => "section end " ++ Text.quoted (Text.decodeLossy label) ++ " missing"
  | .base64 error => error.message
  | .other text => text

namespace Pem

/-! ## Lines -/

/-- The lines of a file, each with the line feed or carriage return that ends it. -/
def lines : List UInt8 → List (List UInt8)
  | [] => []
  | byte :: rest =>
    if byte = 10 ∨ byte = 13 then [byte] :: lines rest
    else match lines rest with
      | [] => [[byte]]
      | line :: others => (byte :: line) :: others

/-- What every line that begins a section starts with. -/
def startMark : List UInt8 := Text.encode "-----BEGIN "

/-- The dashes around a label. -/
def dashes : List UInt8 := Text.encode "-----"

/-- Whether a byte may stand after the label of a line that begins a section. -/
def isClosing (byte : UInt8) : Bool :=
  byte = 10 || byte = 13 || byte = 32 || byte = 45

/-- The label of a line that begins a section: what comes before the five dashes at its end, which may
    have blanks and line ends between and around them. -/
def startLabel? (line : List UInt8) : Option (List UInt8) :=
  let closing := (line.reverse.takeWhile isClosing).reverse
  if closing.count 45 = 5 then
    let labelEnd := line.length - closing.length + (closing.takeWhile (· ≠ 45)).length
    some ((line.take labelEnd).drop startMark.length)
  else none

/-- What a line that ends the section `label` starts with. -/
def endMark (label : List UInt8) : List UInt8 :=
  Text.encode "-----END " ++ label ++ dashes

/-! ## Sections -/

/-- The kinds of sections that are decoded. -/
inductive Kind where
  | certificate
  | privateKey (encoding : KeyEncoding)
  | publicKey
  | revocationList
  | certificateRequest
  | helloConfig
  deriving DecidableEq, Repr

/-- The kind of a section, by its label; sections of no kind are passed over. -/
def kind? (label : List UInt8) : Option Kind :=
  if label = Text.encode "CERTIFICATE" then some .certificate
  else if label = Text.encode "PRIVATE KEY" then some (.privateKey .pkcs8)
  else if label = Text.encode "RSA PRIVATE KEY" then some (.privateKey .pkcs1)
  else if label = Text.encode "EC PRIVATE KEY" then some (.privateKey .sec1)
  else if label = Text.encode "PUBLIC KEY" then some .publicKey
  else if label = Text.encode "X509 CRL" then some .revocationList
  else if label = Text.encode "CERTIFICATE REQUEST" then some .certificateRequest
  else if label = Text.encode "ECHCONFIG" then some .helloConfig
  else none

/-- A decoded section. -/
structure Section where
  kind : Kind
  der : List UInt8
  deriving DecidableEq, Repr

/-- A section under way: its label, and the base64 collected so far. -/
structure Opened where
  label : List UInt8
  collected : List UInt8

/-- The sections in the lines that follow, up to the first error. -/
def sectionsFrom (opened : Option Opened) : List (List UInt8) → List (Except PemError Section)
  | [] =>
    match opened with
    | some current => [.error (.missingEnd current.label)]
    | none => []
  | line :: rest =>
    if startMark.isPrefixOf line then
      match startLabel? line with
      | none => [.error (.illegalStart line)]
      | some label =>
        let collected := (opened.map (·.collected)).getD []
        sectionsFrom (some ⟨label, collected⟩) rest
    else match opened with
      | none => sectionsFrom none rest
      | some current =>
        if (endMark current.label).isPrefixOf line then
          match kind? current.label with
          | none => sectionsFrom none rest
          | some kind =>
            match Base64.decode current.collected with
            | .error error => [.error (.base64 error)]
            | .ok der => .ok ⟨kind, der⟩ :: sectionsFrom none rest
        else sectionsFrom (some { current with collected := current.collected ++ line }) rest

/-- The sections of a file, up to the first error. -/
def sections (contents : List UInt8) : List (Except PemError Section) :=
  sectionsFrom none (lines contents)

/-! ## Writing -/

/-- The text of a section, its base64 given line by line. -/
def sectionText (label : String) (body : List String) : String :=
  "-----BEGIN " ++ label ++ "-----\n" ++ String.join (body.map (· ++ "\n"))
    ++ "-----END " ++ label ++ "-----\n"

/-! ## Certificates and keys -/

/-- The certificate in a section. -/
def Section.certificate? (part : Section) : Option Certificate :=
  match part.kind with
  | .certificate => some ⟨part.der⟩
  | _ => none

/-- The private key in a section. -/
def Section.privateKey? (part : Section) : Option PrivateKey :=
  match part.kind with
  | .privateKey encoding => some ⟨encoding, part.der⟩
  | _ => none

/-- All certificates of a file, in order. An error anywhere in it counts. -/
def certificates (contents : List UInt8) : Except PemError (List Certificate) := do
  let parts ← (sections contents).mapM id
  return parts.filterMap Section.certificate?

/-- The first private key among sections. What comes after it is not looked at. -/
def firstKey : List (Except PemError Section) → Except PemError (Option PrivateKey)
  | [] => .ok none
  | .error error :: _ => .error error
  | .ok part :: rest =>
    match part.privateKey? with
    | some key => .ok (some key)
    | none => firstKey rest

/-- The first private key of a file. -/
def privateKey (contents : List UInt8) : Except PemError (Option PrivateKey) :=
  firstKey (sections contents)

end Pem

end TlsIdentity
