import TlsIdentity.Text.Invisible

/-!
# Quoted text

Messages show a text that came from outside between double quotes, so that its ends and its invisible
characters can be seen. Quote and backslash get a backslash, the four common control characters their
letter, and every other invisible character its number in braces. Everything else stands for itself, so
a quoted text without a backslash reads as it was given.
-/

namespace TlsIdentity.Text

/-! ## One character -/

/-- The number of `c` in lower-case hexadecimal, in braces. -/
def numbered (c : Char) : List Char :=
  ['\\', 'u', '\x7b'] ++ Nat.toDigits 16 c.toNat ++ ['\x7d']

/-- How `c` is written inside quotes. -/
def escape (c : Char) : List Char :=
  match c with
  | '"' => ['\\', '"']
  | '\\' => ['\\', '\\']
  | '\n' => ['\\', 'n']
  | '\r' => ['\\', 'r']
  | '\t' => ['\\', 't']
  | '\x00' => ['\\', '0']
  | c => if isInvisible c then numbered c else [c]

/-! ## A whole text -/

/-- `text` between double quotes, each character escaped where it has to be. -/
def quoted (text : String) : String :=
  String.ofList (['"'] ++ text.toList.flatMap escape ++ ['"'])

end TlsIdentity.Text
