import TlsIdentity.Address.IPv4

/-!
# IPv6 addresses

Eight groups of sixteen bits. A text has its groups in hexadecimal with colons between; `::` stands once
for one or more groups of zero, and the last two groups may be written as an IPv4 address. The canonical
text is lower case without leading zeros, shortens the first of the longest runs of at least two zero
groups, and shows an IPv4 address only behind `::ffff:`.
-/

namespace TlsIdentity

/-- An IPv6 address: its groups from left to right. -/
structure IPv6 where
  groups : List UInt16
  length_groups : groups.length = 8
  deriving DecidableEq

namespace IPv6

/-- The octets, from left to right. -/
def octets (address : IPv6) : List UInt8 :=
  address.groups.flatMap fun (group : UInt16) => [(group >>> 8).toUInt8, group.toUInt8]

/-! ## Reading -/

/-- The value of a hexadecimal digit of either case. -/
def hexDigit? (digit : Char) : Option Nat :=
  if digit.isDigit then some (digit.toNat - '0'.toNat)
  else if 'a' ≤ digit ∧ digit ≤ 'f' then some (digit.toNat - 'a'.toNat + 10)
  else if 'A' ≤ digit ∧ digit ≤ 'F' then some (digit.toNat - 'A'.toNat + 10)
  else none

/-- The group that one to four hexadecimal digits stand for. -/
def group? (digits : List Char) : Option UInt16 := do
  let values ← digits.mapM hexDigit?
  if values.length = 0 ∨ 4 < values.length then none
  else some (values.foldl (fun value digit => value * 16 + digit) 0).toUInt16

/-- An IPv4 address as two groups. -/
def groupsOfIPv4 (address : IPv4) : List UInt16 :=
  [address.first.toUInt16 * 256 + address.second.toUInt16,
   address.third.toUInt16 * 256 + address.fourth.toUInt16]

/-- The groups that the pieces between colons stand for. Only the last piece may be an IPv4 address, and
    only if `tail` is set. -/
def pieces? (tail : Bool) : List (List Char) → Option (List UInt16)
  | [] => some []
  | [last] =>
    match group? last with
    | some group => some [group]
    | none => if tail then (IPv4.ofChars? last).map groupsOfIPv4 else none
  | piece :: rest => do
    let group ← group? piece
    let groups ← pieces? tail rest
    return group :: groups

/-- The groups of a text without `::`; the empty text has none. -/
def groups? (tail : Bool) (text : List Char) : Option (List UInt16) :=
  if text = [] then some [] else pieces? tail (text.splitOn ':')

/-- What stands before and after the first `::`. -/
def splitAtGap? : List Char → Option (List Char × List Char)
  | [] => none
  | ':' :: ':' :: rest => some ([], rest)
  | c :: rest => (splitAtGap? rest).map fun (before, after) => (c :: before, after)

/-- The address of eight groups. -/
def ofGroups? (groups : List UInt16) : Option IPv6 :=
  if h : groups.length = 8 then some ⟨groups, h⟩ else none

/-- The address that a text stands for. A gap stands for at least one group. -/
def ofChars? (text : List Char) : Option IPv6 :=
  match splitAtGap? text with
  | none => do ofGroups? (← groups? true text)
  | some (before, after) => do
    let front ← groups? false before
    let back ← groups? true after
    if front.length + back.length ≤ 7 then
      ofGroups? (front ++ List.replicate (8 - front.length - back.length) 0 ++ back)
    else none

/-! ## Writing -/

/-- The groups in hexadecimal with colons between. -/
def groupsText (groups : List UInt16) : String :=
  ":".intercalate (groups.map fun group => String.ofList (Nat.toDigits 16 group.toNat))

/-- Where the first of the longest runs of zero groups begins, and its length. -/
def longestGap : List UInt16 → Nat × Nat
  | [] => (0, 0)
  | group :: rest =>
    let here := ((group :: rest).takeWhile (· = 0)).length
    let (start, length) := longestGap rest
    if length ≤ here then (0, here) else (start + 1, length)

/-- The canonical text of an address. -/
def toText (address : IPv6) : String :=
  match address.groups with
  | [0, 0, 0, 0, 0, 0xffff, high, low] =>
    "::ffff:" ++ IPv4.toText ⟨(high >>> 8).toUInt8, high.toUInt8, (low >>> 8).toUInt8, low.toUInt8⟩
  | groups =>
    let (start, length) := longestGap groups
    if 2 ≤ length then
      groupsText (groups.take start) ++ "::" ++ groupsText (groups.drop (start + length))
    else groupsText groups

end IPv6

end TlsIdentity
