import MarkupTemplate.Text.Digits
import MarkupTemplate.Text.Letter
import Mathlib.Data.List.Basic
import Mathlib.Data.Nat.Digits.Defs

/-!
Texts of decimal integers. Main statement: what is read as an integer is an optional sign and at
least one digit, and the integer is the value of the digits under the sign, of any size.
-/

namespace MarkupTemplate

/-- At least one decimal digit, and nothing else. -/
def DecimalRow (digits : List Char) : Prop := digits ≠ [] ∧ ∀ c ∈ digits, c.isDigit = true

/-- The number that a row of decimal digits denotes, the last digit being the units. -/
def decimalValue (digits : List Char) : Nat :=
  Nat.ofDigits 10 (digits.reverse.map fun c => c.toNat - '0'.toNat)

/-- A text spells an integer by an optional sign and a row of digits. -/
inductive SpellsInteger : List Char → Int → Prop where
  | plain (digits : List Char) : DecimalRow digits → SpellsInteger digits (decimalValue digits)
  | plus (digits : List Char) : DecimalRow digits →
      SpellsInteger ('+' :: digits) (decimalValue digits)
  | minus (digits : List Char) : DecimalRow digits →
      SpellsInteger ('-' :: digits) (-(decimalValue digits : Int))

theorem decimal_between (c : Char) : c.isDigit = true ↔ '0' ≤ c ∧ c ≤ '9' := by
  simp [Char.isDigit, Char.le_def, UInt32.le_iff_toNat_le]

theorem digit_of_decimal (c : Char) (digit : c.isDigit = true) :
    digitOf c = some (c.toNat - '0'.toNat) := by
  rw [digitOf, if_pos ((decimal_between c).mp digit)]
  rfl

-- Letters stand for the digits from ten on.
theorem digit_in_ten (c : Char) : isDigitIn 10 c = c.isDigit := by
  rw [isDigitIn, digitIn]
  cases digit : c.isDigit with
  | true =>
      have code := code_of_isDigit c digit
      have small : c.toNat - 48 < 10 := by omega
      simp [digit_of_decimal c digit, Option.filter, small]
  | false =>
      have other : ¬('0' ≤ c ∧ c ≤ '9') := by simp [← decimal_between, digit]
      rw [digitOf, if_neg other]
      split
      · rename_i letter
        have code : 97 ≤ c.toNat := letter.1
        have large : ¬c.toNat - 87 < 10 := by omega
        simp [Option.filter, large]
      split
      · rename_i letter
        have code : 65 ≤ c.toNat := letter.1
        have large : ¬c.toNat - 55 < 10 := by omega
        simp [Option.filter, large]
      · rfl

theorem decimal_value (digits : List Char) (are : ∀ c ∈ digits, c.isDigit = true) :
    numeralValue 10 digits = decimalValue digits := by
  rw [numeralValue_eq_foldl, decimalValue, Nat.ofDigits_eq_foldr, List.foldr_map, List.foldr_reverse]
  refine List.foldl_ext _ _ 0 ?_
  intro total c member
  rw [addDigit, digit_of_decimal c (are c member), Option.getD_some, Nat.add_comm]
  rfl

theorem read_decimal_iff (text : List Char) (number : Nat) :
    readNumeral 10 text = some number ↔ DecimalRow text ∧ decimalValue text = number := by
  have digits : text.all (isDigitIn 10) = true ↔ ∀ c ∈ text, c.isDigit = true := by
    simp [List.all_eq_true, digit_in_ten]
  simp only [readNumeral, digits]
  split
  · rename_i row
    rw [decimal_value text row.2, Option.some.injEq]
    exact (and_iff_right (a := DecimalRow text) row).symm
  · rename_i other
    exact iff_of_false nofun fun row => other row.1

/-- The texts that are read as integers. -/
theorem read_signed_iff (text : List Char) (number : Int) :
    readSignedNumeral 10 text = some number ↔ SpellsInteger text number := by
  constructor
  · intro read
    unfold readSignedNumeral readSigned at read
    split at read
    · obtain ⟨size, row, rfl⟩ := Option.map_eq_some_iff.mp read
      obtain ⟨digits, rfl⟩ := (read_decimal_iff _ _).mp row
      exact .plus _ digits
    · obtain ⟨size, row, rfl⟩ := Option.map_eq_some_iff.mp read
      obtain ⟨digits, rfl⟩ := (read_decimal_iff _ _).mp row
      exact .minus _ digits
    · obtain ⟨size, row, rfl⟩ := Option.map_eq_some_iff.mp read
      obtain ⟨digits, rfl⟩ := (read_decimal_iff _ _).mp row
      exact .plain _ digits
  · intro spells
    cases spells with
    | plain _ row =>
        have read := (read_decimal_iff text _).mpr ⟨row, rfl⟩
        unfold readSignedNumeral readSigned
        split
        · exact absurd (row.2 '+' List.mem_cons_self) (by decide)
        · exact absurd (row.2 '-' List.mem_cons_self) (by decide)
        · rw [read]
          rfl
    | plus digits row =>
        rw [readSignedNumeral, readSigned, (read_decimal_iff _ _).mpr ⟨row, rfl⟩]
        rfl
    | minus digits row =>
        rw [readSignedNumeral, readSigned, (read_decimal_iff _ _).mpr ⟨row, rfl⟩]
        rfl

end MarkupTemplate
