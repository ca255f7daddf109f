import MarkupTemplate.Text.Digits
import Mathlib.Data.List.Basic

/-!
Numerals as they are written, in the bases that have a digit for every remainder. The digits of a
number stand for that number, letters among them are small, and no digit is a sign. Main statements:
a numeral reads back as its number, and the text of an integer as the integer.
-/

namespace MarkupTemplate

theorem digit_written : ∀ digit < 16,
    digitOf (Nat.digitChar digit) = some digit ∧ (Nat.digitChar digit).isUpper = false := by
  decide

section

variable (base : Nat) (several : 1 < base)

include several

theorem numeral_digits (number : Nat) :
    ∀ c ∈ numeral base number, ∃ digit < base, c = Nat.digitChar digit := by
  induction number using Nat.strongRecOn with
  | ind number ih =>
      rw [numeral, Nat.toDigits_eq_if several]
      split
      · rename_i small
        intro c member
        exact ⟨number, small, List.mem_singleton.mp member⟩
      · intro c member
        rcases List.mem_append.mp member with earlier | last
        · exact ih (number / base) (Nat.div_lt_self (by omega) several) c earlier
        · have below := Nat.mod_lt number (Nat.lt_of_succ_lt several)
          exact ⟨number % base, below, List.mem_singleton.mp last⟩

theorem numeral_digit_in (few : base ≤ 16) (number : Nat) :
    ∀ c ∈ numeral base number, isDigitIn base c = true ∧ c.isUpper = false := by
  intro c member
  obtain ⟨digit, below, rfl⟩ := numeral_digits base several number c member
  have written := digit_written digit (Nat.lt_of_lt_of_le below few)
  exact ⟨by simp [isDigitIn, digitIn, written.1, Option.filter, below], written.2⟩

-- The last digit is the remainder, and the digits before it are the numeral of the quotient.
theorem numeral_value (few : base ≤ 16) (number : Nat) :
    numeralValue base (numeral base number) = number := by
  have step (total digit : Nat) (below : digit < base) :
      addDigit base total (Nat.digitChar digit) = base * total + digit := by
    have written := digit_written digit (Nat.lt_of_lt_of_le below few)
    rw [addDigit, written.1, Option.getD_some]
  induction number using Nat.strongRecOn with
  | ind number ih =>
      rw [numeralValue_eq_foldl, numeral, Nat.toDigits_eq_if several]
      split
      · rename_i small
        rw [List.foldl_cons, List.foldl_nil, step 0 number small, Nat.mul_zero, Nat.zero_add]
      · have quotient := ih (number / base) (Nat.div_lt_self (by omega) several)
        rw [numeralValue_eq_foldl, numeral] at quotient
        rw [List.foldl_append, quotient, List.foldl_cons, List.foldl_nil,
          step _ _ (Nat.mod_lt number (Nat.lt_of_succ_lt several)), Nat.div_add_mod]

theorem read_numeral (few : base ≤ 16) (number : Nat) :
    readNumeral base (numeral base number) = some number := by
  have filled : numeral base number ≠ [] := Nat.toDigits_ne_nil
  have digits : (numeral base number).all (isDigitIn base) = true := by
    rw [List.all_eq_true]
    exact fun c member => (numeral_digit_in base several few number c member).1
  rw [readNumeral, if_pos ⟨filled, digits⟩, numeral_value base several few]

end

theorem read_decimal (number : Nat) : readNumeral 10 (numeral 10 number) = some number :=
  read_numeral 10 (by decide) (by decide) number

-- A numeral begins with a digit, so that no sign is read in front of it.
theorem read_unsigned (number : Nat) :
    readSignedNumeral 10 (numeral 10 number) = some (number : Int) := by
  have read := read_decimal number
  have digits : ∀ c ∈ numeral 10 number, c.isDigit = true :=
    fun _ member => Nat.isDigit_of_mem_toDigits (by decide) (by decide) member
  rw [readSignedNumeral]
  cases shown : numeral 10 number with
  | nil => exact absurd shown Nat.toDigits_ne_nil
  | cons c rest =>
      rw [shown] at read digits
      have digit := digits c List.mem_cons_self
      unfold readSigned
      split
      · rename_i same
        cases same
        exact absurd digit (by decide)
      · rename_i same
        cases same
        exact absurd digit (by decide)
      · rw [read]
        rfl

theorem read_int_text (number : Int) : readSignedNumeral 10 (intText number) = some number := by
  rw [intText]
  by_cases negative : number < 0
  · have size : -Int.ofNat number.natAbs = number := by
      rw [Int.ofNat_eq_natCast, Int.ofNat_natAbs_of_nonpos (Int.le_of_lt negative), Int.neg_neg]
    rw [if_pos negative, readSignedNumeral, readSigned, read_decimal, Option.map_some, size]
  · rw [if_neg negative, read_unsigned, Int.natAbs_of_nonneg (Int.not_lt.mp negative)]

end MarkupTemplate
