import Offload.Text.CodePoints

/-!
# Quoted text

The quoted form of a text stands between double quotes. Control characters with a letter of their
own, the quote and the backslash are escaped by a backslash. A character that would not show by
itself, because it is unprintable or joins the character before it, is written as its code point.
-/

namespace Offload.Quoted

/-- A character written as its code point. -/
def codePoint (character : Char) : List Char :=
  ['\\', 'u', '\x7b'] ++ Nat.toDigits 16 character.toNat ++ ['\x7d']

/-- One character of a text, in quoted form. -/
def escape (character : Char) : List Char :=
  match character with
  | '\x00' => ['\\', '0']
  | '\t' => ['\\', 't']
  | '\r' => ['\\', 'r']
  | '\n' => ['\\', 'n']
  | '\\' => ['\\', '\\']
  | '"' => ['\\', '"']
  | other =>
    if other.toNat < 0x7f ∧ 0x20 ≤ other.toNat then [other]
    else if CodePoints.extending.contains other.toNat then codePoint other
    else if CodePoints.unprintable.contains other.toNat then codePoint other
    else [other]

/-- A text in quoted form. -/
def quote (text : String) : String :=
  String.ofList (['"'] ++ text.toList.flatMap escape ++ ['"'])

end Offload.Quoted
