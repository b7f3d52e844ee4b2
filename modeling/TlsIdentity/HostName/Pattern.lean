import TlsIdentity.HostName
import TlsIdentity.Text.Split

/-!
# Patterns of host names

A pattern covers every host, one host, or the hosts directly below a parent name: `*.example.com` covers
`www.example.com` but neither `example.com` nor `a.www.example.com`. A pattern is read from text in any
spelling of the name and written back in canonical form.
-/

namespace TlsIdentity

/-- The hosts that an identity is registered for. -/
inductive HostPattern where
  /-- Every host. -/
  | any
  /-- The host of this canonical name. -/
  | exact (name : String)
  /-- Every host with exactly one more label in front of this canonical name. -/
  | below (parent : String)
  deriving DecidableEq, Repr

namespace HostPattern

/-! ## Text -/

/-- The text that stands for every host. -/
def anyText : String := "*"

/-- The parent name of a text that begins with a star label. -/
def parent? (text : String) : Option String :=
  match text.toList with
  | '*' :: '.' :: rest => some (String.ofList rest)
  | _ => none

/-- The pattern that `text` stands for, or `none` if a label of the name is empty or holds a star. -/
def ofText? (text : String) : Option HostPattern :=
  let name := HostName.canonical text
  if name = anyText then some .any
  else match parent? name with
    | some parent => if HostName.isPlain parent then some (.below parent) else none
    | none => if HostName.isPlain name then some (.exact name) else none

/-- The text of a pattern. -/
def toText : HostPattern → String
  | .any => anyText
  | .exact name => name
  | .below parent => "*." ++ parent

/-! ## Hosts -/

/-- What follows the first dot of a name. -/
def afterFirstDot? (name : String) : Option String :=
  (Text.splitFirst? '.' name.toList).map fun (_, rest) => String.ofList rest

/-- Whether the pattern covers `host`, which is compared as it is given. -/
def covers (pattern : HostPattern) (host : String) : Bool :=
  match pattern with
  | .any => true
  | .exact name => name = host
  | .below parent => afterFirstDot? host = some parent

/-- Whether the pattern that `text` stands for covers `host`, in any spelling of either. A text that
    stands for no pattern covers nothing. -/
def textCovers (text host : String) : Bool :=
  match ofText? text with
  | some pattern => pattern.covers (HostName.canonical host)
  | none => false

end HostPattern

end TlsIdentity
