import MarkupTemplate.Binary64.Basic
import Mathlib.Algebra.Order.Field.Power
import Mathlib.Algebra.Order.Field.Rat
import Mathlib.Data.Rat.Floor
import Mathlib.Tactic.Linarith

/-!
The exact numbers that doubles stand for. Main statements: the integer part of a finite double is
its number without the fraction, and a double is below zero where its number is, or where it is the
negative infinity.
-/

namespace MarkupTemplate

/-- The integer that is left of a number without its fraction. -/
def towardZero (number : ℚ) : ℤ := if number < 0 then ⌈number⌉ else ⌊number⌋

theorem toward_zero_positive (number : ℚ) (above : 0 ≤ number) : towardZero number = ⌊number⌋ :=
  if_neg (not_lt.mpr above)

theorem toward_zero_negated (number : ℚ) (above : 0 ≤ number) :
    towardZero (-number) = -⌊number⌋ := by
  rw [towardZero]
  split
  · exact Int.ceil_neg
  · have zero : number = 0 := by linarith
    simp [zero]

theorem two_zpow (exponent : ℤ) :
    (2 : ℚ) ^ exponent = 2 ^ exponent.toNat / 2 ^ (-exponent).toNat := by
  cases exponent with
  | ofNat power => simp
  | negSucc power => simp [zpow_negSucc]

namespace Binary64

def exponentField (x : Binary64) : Nat := x.bits.toNat / 2 ^ 52 % 2 ^ 11

def fractionField (x : Binary64) : Nat := x.bits.toNat % 2 ^ 52

/-- The number that the bits of a finite double encode. Unless all bits of the exponent are zero,
the significand has one bit more than the fraction. -/
def exact (x : Binary64) : ℚ :=
  let size : ℚ :=
    if x.exponentField = 0 then x.fractionField * 2 ^ (-1074 : ℤ)
    else (2 ^ 52 + x.fractionField) * 2 ^ ((x.exponentField : ℤ) - 1075)
  if x.bits.toNat < 2 ^ 63 then size else -size

/-- The absolute value of a finite double. -/
def exactSize (x : Binary64) : ℚ := x.significand * 2 ^ x.scale

theorem exact_signed (x : Binary64) :
    x.exact = if x.isNegative then -x.exactSize else x.exactSize := by
  have binade : x.size / Nat.pow 2 52 = x.exponentField := by
    simp only [size, exponentField, Nat.pow_eq]
    omega
  have rest : x.size % Nat.pow 2 52 = x.fractionField := by
    simp only [size, fractionField, Nat.pow_eq]
    omega
  have whole := Nat.div_add_mod x.size (Nat.pow 2 52)
  have sign : x.isNegative = true ↔ ¬x.bits.toNat < 2 ^ 63 := by
    simp only [isNegative, decide_eq_true_iff, Nat.pow_eq, not_lt]
  have size : x.exactSize = if x.exponentField = 0 then (x.fractionField : ℚ) * 2 ^ (-1074 : ℤ)
      else (2 ^ 52 + x.fractionField) * 2 ^ ((x.exponentField : ℤ) - 1075) := by
    rw [exactSize, significand, scale, binade, rest]
    rw [binade, rest] at whole
    by_cases least : x.exponentField = 0
    · rw [least, Nat.mul_zero, Nat.zero_add] at whole
      rw [if_pos least, if_pos least, ← whole, least]
      rfl
    · have most : max 1 x.exponentField = x.exponentField := by omega
      rw [if_neg least, if_neg least, most]
      norm_num
  rw [exact, ← size]
  by_cases below : x.bits.toNat < 2 ^ 63
  · rw [if_pos below, if_neg (by rw [sign]; exact not_not.mpr below)]
  · rw [if_neg below, if_pos (sign.mpr below)]

theorem exact_size_positive (x : Binary64) : 0 ≤ x.exactSize :=
  mul_nonneg (Nat.cast_nonneg _) (zpow_nonneg (by decide) _)

theorem exact_size_floor (x : Binary64) :
    ⌊x.exactSize⌋ =
      ((x.significand * Nat.pow 2 x.scale.toNat / Nat.pow 2 (-x.scale).toNat : Nat) : Int) := by
  have quotient : x.exactSize = ((x.significand * 2 ^ x.scale.toNat : Nat) : Int) /
      ((2 ^ (-x.scale).toNat : Nat) : ℚ) := by
    rw [exactSize, two_zpow]
    push_cast
    ring
  rw [quotient, Rat.floor_intCast_div_natCast]
  simp

/-- The integer part of a finite double is its number rounded toward zero. -/
theorem truncate_exact (x : Binary64) (finite : x.isFinite = true) :
    x.truncate = some (towardZero x.exact) := by
  have positive := exact_size_positive x
  rw [truncate, if_pos finite, exact_signed]
  dsimp only
  rw [← exact_size_floor]
  split
  · rw [toward_zero_negated _ positive]
  · rw [toward_zero_positive _ positive]

theorem truncate_infinite (x : Binary64) (infinite : x.isFinite = false) : x.truncate = none := by
  rw [truncate, infinite]
  rfl

theorem exact_size_zero_iff (x : Binary64) : x.exactSize = 0 ↔ x.size = 0 := by
  have power : (2 : ℚ) ^ x.scale ≠ 0 := zpow_ne_zero _ (by decide)
  have whole := Nat.div_add_mod x.size (Nat.pow 2 52)
  rw [exactSize, mul_eq_zero, or_iff_left power, Nat.cast_eq_zero, significand]
  simp only [Nat.pow_eq] at whole ⊢
  split <;> omega

theorem negative_infinity_iff (x : Binary64) :
    x = infinity true ↔ x.isNegative = true ∧ x.size = infiniteSize := by
  constructor
  · rintro rfl
    decide
  · rintro ⟨negative, infinite⟩
    have bits : x.bits.toNat = (infinity true).bits.toNat := by
      have same : (infinity true).bits.toNat = 2 ^ 63 + infiniteSize := by decide
      have small := x.bits.toNat_lt
      simp only [isNegative, size, decide_eq_true_iff, Nat.pow_eq] at negative infinite
      omega
    exact congrArg Binary64.mk (UInt64.toNat_inj.mp bits)

/-- A double is below zero where its number is, and where it is the negative infinity. -/
theorem below_zero_iff (x : Binary64) :
    x.compare? .zero = some .lt ↔
      x = infinity true ∨ x.isFinite = true ∧ x.exact < 0 := by
  have zero : zero.isNaN = false ∧ zero.rank = 0 := by decide
  have positive := exact_size_positive x
  have filled : 0 < x.exactSize ↔ x.size ≠ 0 := by
    rw [positive.lt_iff_ne, ne_comm, Ne, exact_size_zero_iff]
  have infinite : 0 < infiniteSize := by decide
  rw [compare_some_iff, zero.1, zero.2, compare_lt_iff_lt, negative_infinity_iff, exact_signed,
    rank]
  cases x.isNegative with
  | false =>
      refine iff_of_false ?_ ?_
      · rintro ⟨_, _, below⟩
        exact Int.not_lt.mpr (Int.natCast_nonneg x.size) below
      · rintro (⟨negative, _⟩ | ⟨_, below⟩)
        · cases negative
        · exact not_lt.mpr positive below
  | true =>
      simp only [↓reduceIte, neg_lt_zero, filled, isNaN, isFinite, decide_eq_false_iff_not,
        decide_eq_true_iff, true_and]
      omega

end Binary64

end MarkupTemplate
