/-!
# IPv4 addresses

Four octets, written in decimal with dots between. An octet has no leading zeros, so each address has
one text.
-/

namespace TlsIdentity

/-- An IPv4 address: its octets from left to right. -/
structure IPv4 where
  first : UInt8
  second : UInt8
  third : UInt8
  fourth : UInt8
  deriving DecidableEq, Repr

namespace IPv4

/-- The octets, from left to right. -/
def octets (address : IPv4) : List UInt8 :=
  [address.first, address.second, address.third, address.fourth]

/-! ## Reading -/

/-- The number that a list of decimal digits stands for. -/
def decimalValue (digits : List Char) : Nat :=
  digits.foldl (fun value digit => value * 10 + (digit.toNat - '0'.toNat)) 0

/-- The octet that a piece of text stands for: digits only, at least one, no leading zero, below 256. -/
def octet? (digits : List Char) : Option UInt8 :=
  if digits ≠ [] ∧ digits.all Char.isDigit ∧ (digits.head? ≠ some '0' ∨ digits = ['0'])
      ∧ decimalValue digits < 256 then
    some (decimalValue digits).toUInt8
  else none

/-- The address that a text stands for. -/
def ofChars? (text : List Char) : Option IPv4 :=
  match text.splitOn '.' with
  | [a, b, c, d] => do
    return ⟨← octet? a, ← octet? b, ← octet? c, ← octet? d⟩
  | _ => none

/-! ## Writing -/

/-- The text of an address. -/
def toText (address : IPv4) : String :=
  ".".intercalate (address.octets.map fun octet => toString octet.toNat)

end IPv4

end TlsIdentity
