import Mathlib.Data.Nat.Digits.Defs
import Offload.Settings

/-!
# Numbers in texts

A text writes a number if all it holds, blanks at both ends aside, is a numeral: decimal digits, at
least one, behind a plus sign or not. Reading a text gives the number that it writes if the number
is below the limit, and nothing for every other text.
-/

namespace Offload

/-! ## Decimal digits -/

/-- The number that a decimal digit stands for. -/
def digitValue (digit : Char) : Nat := digit.toNat - '0'.toNat

/-- The number that decimal digits write, the most significant first. -/
def decimal (digits : List Char) : Nat := Nat.ofDigits 10 (digits.reverse.map digitValue)

theorem decimal_cons (digit : Char) (digits : List Char) :
    decimal (digit :: digits) = 10 ^ digits.length * digitValue digit + decimal digits := by
  simp [decimal, Nat.ofDigits_append, Nat.add_comm]

theorem isDigit_iff {digit : Char} : ('0' ≤ digit ∧ digit ≤ '9') ↔ digit.isDigit = true := by
  simp [Char.isDigit, Char.le_def]

/-- Reading on from a number comes to an end behind decimal digits only, which are appended to it.
-/
theorem digitsValue?_eq_some_iff {digits : List Char} {value number : Nat} :
    digitsValue? value digits = some number ↔
      (∀ digit ∈ digits, digit.isDigit = true) ∧
        10 ^ digits.length * value + decimal digits = number := by
  induction digits generalizing value with
  | nil => simp [digitsValue?, decimal]
  | cons digit digits ih =>
    have hvalue : 10 * value + (digit.toNat - '0'.toNat) = 10 * value + digitValue digit := rfl
    rw [digitsValue?, Option.ite_none_right_eq_some, isDigit_iff, hvalue, ih, decimal_cons,
      List.forall_mem_cons, and_assoc, List.length_cons, Nat.pow_succ]
    have hsum : 10 ^ digits.length * (10 * value + digitValue digit) + decimal digits =
        10 ^ digits.length * 10 * value +
          (10 ^ digits.length * digitValue digit + decimal digits) := by
      ring
    rw [hsum]

/-! ## Numerals -/

/-- A numeral: decimal digits, at least one, and whether a plus sign stands before them. -/
structure Numeral where
  signed : Bool
  digits : List Char
  digits_ne_nil : digits ≠ []
  isDigit_of_mem : ∀ digit ∈ digits, digit.isDigit = true

namespace Numeral

/-- The characters of a numeral. -/
def characters (numeral : Numeral) : List Char :=
  if numeral.signed then '+' :: numeral.digits else numeral.digits

/-- The number that a numeral writes. -/
def value (numeral : Numeral) : Nat := decimal numeral.digits

end Numeral

/-- Whether a text writes a number: blanks at both ends aside, it is a numeral for it. -/
def Writes (text : String) (number : Nat) : Prop :=
  ∃ numeral : Numeral, trimBlanks text.toList = numeral.characters ∧ numeral.value = number

/-- A text is read as the number it writes, if that is below the limit. -/
theorem readNumber?_eq_some_iff {limit number : Nat} {text : String} :
    readNumber? limit text = some number ↔ Writes text number ∧ number < limit := by
  have hread (digits : List Char) :
      (if digits = [] then none else (digitsValue? 0 digits).filter (· < limit)) = some number ↔
        (digits ≠ [] ∧ (∀ digit ∈ digits, digit.isDigit = true) ∧ decimal digits = number) ∧
          number < limit := by
    rw [Option.ite_none_left_eq_some, Option.filter_eq_some_iff, digitsValue?_eq_some_iff]
    simp [and_assoc]
  unfold readNumber? Writes
  generalize trimBlanks text.toList = characters
  dsimp only
  split
  · next digits =>
    rw [hread]
    refine and_congr_left fun _ ↦ ?_
    constructor
    · rintro ⟨hne, hdigits, hvalue⟩
      exact ⟨⟨true, digits, hne, hdigits⟩, rfl, hvalue⟩
    · rintro ⟨⟨signed, digits', hne, hdigits⟩, hcharacters, hvalue⟩
      cases signed with
      | true =>
        obtain rfl : digits = digits' := List.tail_eq_of_cons_eq hcharacters
        exact ⟨hne, hdigits, hvalue⟩
      | false =>
        -- A plus sign is no digit.
        obtain rfl : '+' :: digits = digits' := hcharacters
        exact absurd (hdigits '+' List.mem_cons_self) (by decide)
  · next hunsigned =>
    rw [hread]
    refine and_congr_left fun _ ↦ ?_
    constructor
    · rintro ⟨hne, hdigits, hvalue⟩
      exact ⟨⟨false, characters, hne, hdigits⟩, rfl, hvalue⟩
    · rintro ⟨⟨signed, digits', hne, hdigits⟩, hcharacters, hvalue⟩
      cases signed with
      | true => exact absurd hcharacters (hunsigned digits')
      | false =>
        obtain rfl : characters = digits' := hcharacters
        exact ⟨hne, hdigits, hvalue⟩

end Offload
