/-!
# Base64

Text of the standard alphabet with padding becomes bytes. Blanks are passed over. Characters are read in
blocks of eight: padding in a block that others follow is an error as soon as the next character comes,
and a character outside the alphabet is an error as soon as it is read. In the last block the padding
must close a group of four; a last group of two or three characters may also go without. Bits that fill
no byte are dropped.
-/

namespace TlsIdentity

/-- Why a text is not base64. -/
inductive Base64Error where
  /-- A byte is neither of the alphabet, nor padding, nor blank. -/
  | invalidCharacter (byte : UInt8)
  /-- Padding is followed by more. -/
  | prematurePadding
  /-- The last group of characters is not one that encodes bytes. -/
  | invalidTrailingPadding
  deriving DecidableEq, Repr

/-- The error as text. -/
def Base64Error.message : Base64Error → String
  | .invalidCharacter byte => "InvalidCharacter(" ++ toString byte.toNat ++ ")"
  | .prematurePadding => "PrematurePadding"
  | .invalidTrailingPadding => "InvalidTrailingPadding"

namespace Base64

/-! ## Characters -/

/-- What a character stands for. -/
inductive Symbol where
  /-- Six bits. -/
  | bits (value : Nat)
  | padding
  deriving DecidableEq, Repr

/-- Whether a byte is passed over. -/
def isBlank (byte : UInt8) : Bool :=
  (9 ≤ byte && byte ≤ 13) || byte = 32

/-- The symbol of a byte. -/
def symbol? (byte : UInt8) : Option Symbol :=
  if 65 ≤ byte ∧ byte ≤ 90 then some (.bits (byte.toNat - 65))
  else if 97 ≤ byte ∧ byte ≤ 122 then some (.bits (byte.toNat - 97 + 26))
  else if 48 ≤ byte ∧ byte ≤ 57 then some (.bits (byte.toNat - 48 + 52))
  else if byte = 43 then some (.bits 62)
  else if byte = 47 then some (.bits 63)
  else if byte = 61 then some .padding
  else none

/-! ## Blocks -/

/-- How many characters a block has. -/
def blockSize : Nat := 8

/-- Read on after `block`: the symbols of all blocks but the last, and those of the last. -/
def readBlocks (block : List Symbol) : List UInt8 → Except Base64Error (List Symbol × List Symbol)
  | [] => .ok ([], block)
  | byte :: rest =>
    if isBlank byte then readBlocks block rest
    else match symbol? byte with
      | none => .error (.invalidCharacter byte)
      | some symbol =>
        if block.length < blockSize then readBlocks (block ++ [symbol]) rest
        else if block.contains .padding then .error .prematurePadding
        else do
          let (blocks, last) ← readBlocks [symbol] rest
          return (block ++ blocks, last)

/-- The last group of four or fewer symbols, without its padding. -/
def closeGroup : List Symbol → Except Base64Error (List Symbol)
  | [] => .ok []
  | [.bits a, .bits b] => .ok [.bits a, .bits b]
  | [.bits a, .bits b, .padding, .padding] => .ok [.bits a, .bits b]
  | [.bits a, .bits b, .bits c] => .ok [.bits a, .bits b, .bits c]
  | [.bits a, .bits b, .bits c, .padding] => .ok [.bits a, .bits b, .bits c]
  | [.bits a, .bits b, .bits c, .bits d] => .ok [.bits a, .bits b, .bits c, .bits d]
  | _ => .error .invalidTrailingPadding

/-- The last block, without its padding. -/
def closeBlock (block : List Symbol) : Except Base64Error (List Symbol) :=
  if block.length ≤ 4 then closeGroup block
  else if (block.take 4).contains .padding then .error .prematurePadding
  else do return block.take 4 ++ (← closeGroup (block.drop 4))

/-! ## Bytes -/

/-- The bits of a symbol. -/
def Symbol.value : Symbol → Nat
  | .bits value => value
  | .padding => 0

/-- The bytes that symbols stand for, four symbols to three bytes. -/
def bytes : List Symbol → List UInt8
  | a :: b :: c :: d :: rest =>
    let n := a.value * 262144 + b.value * 4096 + c.value * 64 + d.value
    (n / 65536).toUInt8 :: (n / 256).toUInt8 :: n.toUInt8 :: bytes rest
  | [a, b, c] =>
    let n := a.value * 4096 + b.value * 64 + c.value
    [(n / 1024).toUInt8, (n / 4).toUInt8]
  | [a, b] => [((a.value * 64 + b.value) / 16).toUInt8]
  | _ => []

/-- The bytes that a text stands for. -/
def decode (text : List UInt8) : Except Base64Error (List UInt8) := do
  let (blocks, last) ← readBlocks [] text
  return bytes (blocks ++ (← closeBlock last))

end Base64

end TlsIdentity
