/-!
# Host names

A host name is compared in its canonical form: one trailing dot is dropped and ASCII letters are lower
case. Nothing else is changed, so a second trailing dot and the case of other letters still tell two
names apart. A name is a list of labels separated by dots, and the empty text has one empty label.
-/

namespace TlsIdentity.HostName

/-! ## Canonical form -/

/-- `name` without its last dot, if it ends in one. -/
def dropFinalDot (name : List Char) : List Char :=
  if name.getLast? = some '.' then name.dropLast else name

/-- The form in which host names are stored and compared. -/
def canonical (name : String) : String :=
  String.ofList ((dropFinalDot name.toList).map Char.toLower)

/-! ## Labels -/

/-- The labels of a name, split at every dot; empty labels are kept. -/
def labels (name : String) : List (List Char) :=
  name.toList.splitOn '.'

/-- Whether a label may stand in a registered name: it is not empty and holds no star. -/
def isPlainLabel (label : List Char) : Bool :=
  label ≠ [] && !label.contains '*'

/-- Whether every label of `name` is plain. -/
def isPlain (name : String) : Bool :=
  (labels name).all isPlainLabel

end TlsIdentity.HostName
