import MarkupTemplate.Text.Digits
import Mathlib.Data.List.Forall2
import Mathlib.Data.Nat.Digits.Defs

/-!
Rows of digits in a base of at most sixteen. A row of characters writes a row of digits, one for
one, and the row of digits denotes a number by place. Main statement: what is read as a numeral is
what writes at least one digit, and the numeral is the number that the digits denote.
-/

namespace MarkupTemplate

/-- The character is a digit of the base. From ten on digits are letters, of either case. -/
def WritesDigit (base : Nat) (c : Char) (digit : Nat) : Prop :=
  digit < base ∧ (c = Nat.digitChar digit ∨ c = (Nat.digitChar digit).toUpper)

instance (base : Nat) (c : Char) (digit : Nat) : Decidable (WritesDigit base c digit) :=
  inferInstanceAs (Decidable (_ ∧ _))

/-- The characters are these digits, one for one. -/
abbrev WritesDigits (base : Nat) : List Char → List Nat → Prop := List.Forall₂ (WritesDigit base)

/-- The number that a row of digits denotes, the last digit being the units. -/
def positional (base : Nat) (digits : List Nat) : Nat := Nat.ofDigits base digits.reverse

theorem digit_of_char : ∀ digit < 16, digitOf (Nat.digitChar digit) = some digit ∧
    digitOf (Nat.digitChar digit).toUpper = some digit := by
  decide

-- The digits below ten and the letters of either case are three ranges of code points.
theorem digit_char_codes : ∀ digit < 16,
    if digit < 10 then Nat.digitChar digit = Char.ofNat (digit + 48)
    else Nat.digitChar digit = Char.ofNat (digit + 87) ∧
      (Nat.digitChar digit).toUpper = Char.ofNat (digit + 55) := by
  decide

theorem char_of_code (c : Char) (code : Nat) (same : c.toNat = code) : c = Char.ofNat code := by
  rw [← same, Char.ofNat_toNat]

theorem char_of_digit (c : Char) (digit : Nat) (few : digit < 16) (found : digitOf c = some digit) :
    c = Nat.digitChar digit ∨ c = (Nat.digitChar digit).toUpper := by
  have codes := digit_char_codes digit few
  unfold digitOf at found
  split at found
  · rename_i decimal
    cases found
    have least : 48 ≤ c.toNat := decimal.1
    have most : c.toNat ≤ 57 := decimal.2
    rw [if_pos (by omega)] at codes
    exact Or.inl ((char_of_code c _ (by omega)).trans codes.symm)
  split at found
  · rename_i small
    cases found
    have least : 97 ≤ c.toNat := small.1
    rw [if_neg (by omega)] at codes
    exact Or.inl ((char_of_code c _ (by omega)).trans codes.1.symm)
  split at found
  · rename_i capital
    cases found
    have least : 65 ≤ c.toNat := capital.1
    rw [if_neg (by omega)] at codes
    exact Or.inr ((char_of_code c _ (by omega)).trans codes.2.symm)
  · cases found

section

variable (base : Nat) (few : base ≤ 16)

include few

theorem digit_in_iff (c : Char) (digit : Nat) :
    digitIn base c = some digit ↔ WritesDigit base c digit := by
  rw [digitIn, Option.filter_eq_some_iff, decide_eq_true_eq]
  constructor
  · rintro ⟨found, below⟩
    exact ⟨below, char_of_digit c digit (by omega) found⟩
  · rintro ⟨below, same⟩
    have known := digit_of_char digit (by omega)
    rcases same with rfl | rfl
    · exact ⟨known.1, below⟩
    · exact ⟨known.2, below⟩

theorem all_digits_iff (text : List Char) :
    text.all (isDigitIn base) = true ↔ ∃ digits, WritesDigits base text digits := by
  induction text with
  | nil => exact iff_of_true rfl ⟨[], .nil⟩
  | cons c rest ih =>
      rw [List.all_cons, Bool.and_eq_true, ih, isDigitIn, Option.isSome_iff_exists]
      constructor
      · rintro ⟨⟨digit, found⟩, digits, written⟩
        exact ⟨digit :: digits, .cons ((digit_in_iff base few c digit).mp found) written⟩
      · rintro ⟨digits, written⟩
        cases written with
        | cons first written =>
            exact ⟨⟨_, (digit_in_iff base few c _).mpr first⟩, _, written⟩

theorem numeral_positional (text : List Char) (digits : List Nat)
    (written : WritesDigits base text digits) : numeralValue base text = positional base digits := by
  have total : ∀ start, text.foldl (addDigit base) start =
      digits.foldl (fun total digit => digit + base * total) start := by
    induction written with
    | nil => intro start; rfl
    | cons first _ ih =>
        intro start
        have found := (digit_in_iff base few _ _).mpr first
        rw [digitIn, Option.filter_eq_some_iff] at found
        rw [List.foldl_cons, List.foldl_cons, ih, addDigit, found.1, Option.getD_some, Nat.add_comm]
  rw [numeralValue_eq_foldl, total 0, positional, Nat.ofDigits_eq_foldr, List.foldr_reverse]
  rfl

/-- What is read as a numeral is a row of at least one digit. -/
theorem read_numeral_iff (text : List Char) (number : Nat) :
    readNumeral base text = some number ↔
      ∃ digits, digits ≠ [] ∧ WritesDigits base text digits ∧ positional base digits = number := by
  have filled (digits : List Nat) (written : WritesDigits base text digits) :
      text ≠ [] ↔ digits ≠ [] := by
    cases written <;> simp
  constructor
  · intro read
    unfold readNumeral at read
    split at read
    · rename_i row
      obtain ⟨digits, written⟩ := (all_digits_iff base few text).mp row.2
      cases read
      exact ⟨digits, (filled digits written).mp row.1, written,
        (numeral_positional base few text digits written).symm⟩
    · cases read
  · rintro ⟨digits, some, written, rfl⟩
    have row : text.all (isDigitIn base) = true :=
      (all_digits_iff base few text).mpr ⟨digits, written⟩
    rw [readNumeral, if_pos ⟨(filled digits written).mpr some, row⟩,
      numeral_positional base few text digits written]

theorem read_row (text : List Char) (digits : List Nat)
    (written : WritesDigits base text digits) :
    readNumeral base text = if digits = [] then none else some (positional base digits) := by
  split
  · rename_i nothing
    subst nothing
    cases written
    rfl
  · rename_i some
    exact (read_numeral_iff base few text _).mpr ⟨digits, some, written, rfl⟩

end

end MarkupTemplate
