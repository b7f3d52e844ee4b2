/-!
# UTF-8

`encode` gives the bytes of a text. `decodeLossy` reads any bytes as text: a byte that cannot continue
the character under way ends it, and each maximal piece that is not a character becomes one U+FFFD.
-/

namespace TlsIdentity.Text

/-! ## Writing -/

/-- The UTF-8 bytes of a text. -/
def encode (text : String) : List UInt8 :=
  text.toList.flatMap String.utf8EncodeChar

/-! ## Reading -/

/-- The character shown in place of bytes that are not text. -/
def replacement : Char := '\uFFFD'

/-- Where a reader stands between two bytes. -/
inductive Position where
  /-- Between characters. -/
  | start
  /-- Inside a character: its bits so far, the bytes still owed after the next one, and the bounds of
      the next one. -/
  | within (bits : Nat) (owed : Nat) (low high : UInt8)
  deriving DecidableEq

/-- Read a byte that stands between characters: what it completes, and where the reader is then. The
    second byte's bounds keep out overlong forms, surrogates and numbers above U+10FFFF. -/
def readFirst (b : UInt8) : List Char × Position :=
  if b < 0x80 then ([Char.ofNat b.toNat], .start)
  else if b < 0xC2 then ([replacement], .start)
  else if b < 0xE0 then ([], .within (b.toNat % 32) 0 0x80 0xBF)
  else if b = 0xE0 then ([], .within (b.toNat % 16) 1 0xA0 0xBF)
  else if b = 0xED then ([], .within (b.toNat % 16) 1 0x80 0x9F)
  else if b < 0xF0 then ([], .within (b.toNat % 16) 1 0x80 0xBF)
  else if b = 0xF0 then ([], .within (b.toNat % 8) 2 0x90 0xBF)
  else if b < 0xF4 then ([], .within (b.toNat % 8) 2 0x80 0xBF)
  else if b = 0xF4 then ([], .within (b.toNat % 8) 2 0x80 0x8F)
  else ([replacement], .start)

/-- Read one byte at any position. -/
def readByte : Position → UInt8 → List Char × Position
  | .start, b => readFirst b
  | .within bits owed low high, b =>
    if low ≤ b ∧ b ≤ high then
      let bits := bits * 64 + b.toNat % 64
      match owed with
      | 0 => ([Char.ofNat bits], .start)
      | owed + 1 => ([], .within bits owed 0x80 0xBF)
    else
      let (shown, position) := readFirst b
      (replacement :: shown, position)

/-- The characters of `bytes` read from `position` on. -/
def readFrom : Position → List UInt8 → List Char
  | .start, [] => []
  | .within .., [] => [replacement]
  | position, b :: rest =>
    let (shown, position) := readByte position b
    shown ++ readFrom position rest

/-- The text that `bytes` show, with U+FFFD for what is not UTF-8. -/
def decodeLossy (bytes : List UInt8) : String :=
  String.ofList (readFrom .start bytes)

end TlsIdentity.Text
