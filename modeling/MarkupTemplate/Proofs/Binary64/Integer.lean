import MarkupTemplate.Binary64.Nearest
import Mathlib.Algebra.Order.Group.Int
import Mathlib.Algebra.Order.Ring.Nat

/-!
Integers as doubles. An integer of 64 bits is rounded to 53 binary digits, so the order of integers
is kept, but not always strictly. Main statements: a greater integer never has a smaller double, and
two integers with the same double are both large, of one sign and close to each other.
-/

namespace MarkupTemplate

theorem nearest_integer_mono (den : Nat) {num other : Nat} (below : num ≤ other) :
    nearestInteger num den ≤ nearestInteger other den := by
  have quotients : num / den ≤ other / den := Nat.div_le_div_right below
  have whole := Nat.div_add_mod num den
  have otherWhole := Nat.div_add_mod other den
  simp only [nearestInteger]
  rcases Nat.lt_or_eq_of_le quotients with less | same
  · split <;> split <;> omega
  · have remainders : num % den ≤ other % den := by
      rw [same] at whole
      omega
    rw [same]
    split <;> split <;> omega

theorem nearest_integer_multiple (count den : Nat) (positive : 0 < den) :
    nearestInteger (count * den) den = count := by
  simp [nearestInteger, Nat.mul_div_cancel count positive, positive]

theorem nearest_integer_whole (count : Nat) : nearestInteger count 1 = count := by
  simpa using nearest_integer_multiple count 1 Nat.one_pos

/-- What is rounded off is at most half of the unit. -/
theorem nearest_integer_error (num den : Nat) (positive : 0 < den) :
    2 * num ≤ 2 * (nearestInteger num den * den) + den ∧
      2 * (nearestInteger num den * den) ≤ 2 * num + den := by
  have whole := Nat.div_add_mod' num den
  have rest := Nat.mod_lt num positive
  simp only [nearestInteger]
  split
  · omega
  · rw [Nat.add_mul (num / den) 1 den]
    omega

namespace Binary64

/-- The significand that a positive integer is rounded to. -/
def roundedSignificand (number : Nat) : Nat :=
  nearestInteger (number * 2 ^ (52 - number.log2)) (2 ^ (number.log2 - 52))

/-- The size of the double of an integer. -/
def integerSize (number : Nat) : Nat :=
  if number = 0 then 0 else (number.log2 + 1022) * 2 ^ 52 + roundedSignificand number

-- One of the two differences is zero.
theorem powers_apart (digits exponent : Nat) :
    2 ^ digits * 2 ^ (exponent - digits) = 2 ^ exponent * 2 ^ (digits - exponent) := by
  rw [← Nat.pow_add, ← Nat.pow_add]
  congr 1
  omega

theorem scaled_bounds (number : Nat) (positive : number ≠ 0) :
    2 ^ 52 * 2 ^ (number.log2 - 52) ≤ number * 2 ^ (52 - number.log2) ∧
      number * 2 ^ (52 - number.log2) < 2 ^ 53 * 2 ^ (number.log2 - 52) := by
  have apart := powers_apart 52 number.log2
  have factor := Nat.two_pow_pos (52 - number.log2)
  have least := Nat.mul_le_mul_right (2 ^ (52 - number.log2)) (Nat.log2_self_le positive)
  have greatest := Nat.mul_lt_mul_of_pos_right (Nat.lt_log2_self (n := number)) factor
  rw [Nat.pow_succ, Nat.mul_right_comm, ← apart, Nat.mul_right_comm] at greatest
  exact ⟨apart ▸ least, greatest⟩

theorem significand_bounds (number : Nat) (positive : number ≠ 0) :
    2 ^ 52 ≤ roundedSignificand number ∧ roundedSignificand number ≤ 2 ^ 53 := by
  have unit := Nat.two_pow_pos (number.log2 - 52)
  obtain ⟨least, greatest⟩ := scaled_bounds number positive
  have lower := nearest_integer_mono (2 ^ (number.log2 - 52)) least
  have upper := nearest_integer_mono (2 ^ (number.log2 - 52)) (Nat.le_of_lt greatest)
  rw [nearest_integer_multiple _ _ unit] at lower upper
  exact ⟨lower, upper⟩

theorem scale_of_integer (number : Nat) (positive : number ≠ 0) :
    BinaryFormat.double.scaleOf number 1 = (number.log2 : Int) - 52 := by
  have least := Nat.mul_le_mul_right (2 ^ (53 - number.log2)) (Nat.log2_self_le positive)
  rw [← powers_apart 53 number.log2] at least
  have one : Nat.log2 1 = 0 := by decide
  have below : (number.log2 : Int) - Nat.log2 1 - 53 = number.log2 - 53 := by simp [one]
  have up : (-((number.log2 : Int) - 53)).toNat = 53 - number.log2 := by omega
  have down : ((number.log2 : Int) - 53).toNat = number.log2 - 53 := by omega
  simp only [BinaryFormat.scaleOf, BinaryFormat.double, scaledQuotient, Nat.cast_ofNat, below, up,
    down, Nat.pow_eq, Nat.one_mul, if_pos least]
  omega

theorem nearest_of_integer (number : Nat) (positive : number ≠ 0) (small : number.log2 < 64) :
    ∃ significand scale, BinaryFormat.double.nearest number 1 = some (significand, scale) ∧
      (scale + 1074).toNat * Nat.pow 2 52 + significand = integerSize number := by
  have up : (-((number.log2 : Int) - 52)).toNat = 52 - number.log2 := by omega
  have down : ((number.log2 : Int) - 52).toNat = number.log2 - 52 := by omega
  have rounded : nearestInteger (number * Nat.pow 2 (52 - number.log2))
      (1 * Nat.pow 2 (number.log2 - 52)) = roundedSignificand number := by
    rw [Nat.one_mul]
    rfl
  simp only [BinaryFormat.nearest, if_neg positive, scale_of_integer number positive,
    scaledQuotient, up, down, rounded]
  by_cases carried : roundedSignificand number = Nat.pow 2 BinaryFormat.double.precision
  · have fits : (number.log2 : Int) - 52 + 1 ≤ BinaryFormat.double.greatestScale := by
      simp only [BinaryFormat.double]
      omega
    rw [if_pos carried, if_pos fits]
    refine ⟨_, _, rfl, ?_⟩
    rw [integerSize, if_neg positive, carried]
    simp only [BinaryFormat.double, Nat.pow_eq]
    omega
  · have fits : (number.log2 : Int) - 52 ≤ BinaryFormat.double.greatestScale := by
      simp only [BinaryFormat.double]
      omega
    rw [if_neg carried, if_pos fits]
    refine ⟨_, _, rfl, ?_⟩
    rw [integerSize, if_neg positive]
    simp only [Nat.pow_eq]
    omega

theorem log_mono {number other : Nat} (positive : number ≠ 0) (below : number ≤ other) :
    number.log2 ≤ other.log2 := by
  have later : other ≠ 0 := by omega
  exact (Nat.le_log2 later).mpr (Nat.le_trans (Nat.log2_self_le positive) below)

theorem integer_size_mono (number other : Nat) (below : number ≤ other) :
    integerSize number ≤ integerSize other := by
  by_cases zero : number = 0
  · exact Nat.le_trans (Nat.le_of_eq (if_pos zero)) (Nat.zero_le _)
  have positive : other ≠ 0 := by omega
  rw [integerSize, integerSize, if_neg zero, if_neg positive]
  have bounds := significand_bounds number zero
  have otherBounds := significand_bounds other positive
  rcases Nat.lt_or_eq_of_le (log_mono zero below) with less | same
  · omega
  · have significands : roundedSignificand number ≤ roundedSignificand other := by
      rw [roundedSignificand, roundedSignificand, same]
      exact nearest_integer_mono _ (Nat.mul_le_mul_right _ below)
    omega

theorem small_significand (number : Nat) (small : number < 2 ^ 53) :
    roundedSignificand number = number * 2 ^ (52 - number.log2) := by
  by_cases zero : number = 0
  · subst zero
    decide
  have bits := (Nat.log2_lt zero).mpr small
  have unit : number.log2 - 52 = 0 := by omega
  rw [roundedSignificand, unit, Nat.pow_zero, nearest_integer_whole]

/-- Integers of up to 53 binary digits are not rounded. -/
theorem integer_size_strict (number other : Nat) (below : number < other)
    (small : number < 2 ^ 53) : integerSize number < integerSize other := by
  have positive : other ≠ 0 := by omega
  have otherBounds := significand_bounds other positive
  rw [integerSize, integerSize, if_neg positive]
  split
  · omega
  · rename_i filled
    have exact := small_significand number small
    have bits := (Nat.log2_lt filled).mpr small
    have unit : number.log2 - 52 = 0 := by omega
    rcases Nat.lt_or_eq_of_le (log_mono filled (Nat.le_of_lt below)) with less | same
    · have bound := (scaled_bounds number filled).2
      rw [unit] at bound
      omega
    · have significands : roundedSignificand number < roundedSignificand other := by
        have factor := Nat.two_pow_pos (52 - number.log2)
        have strictly := Nat.mul_lt_mul_of_pos_right below factor
        rwa [exact, roundedSignificand, ← same, unit, Nat.pow_zero, nearest_integer_whole]
      omega

theorem integer_size_finite (number : Nat) (fits : number ≤ 2 ^ 63) :
    integerSize number < infiniteSize := by
  rw [integerSize]
  split
  · decide
  · rename_i positive
    have bits : number.log2 < 64 := (Nat.log2_lt positive).mpr (by omega)
    have bounds := significand_bounds number positive
    rw [infiniteSize, Nat.pow_eq]
    omega

/-- The integer that a double of a size stands for, from the fifty-third binary digit on. -/
def sizeValue (size : Nat) : Nat := (2 ^ 52 + size % 2 ^ 52) * 2 ^ (size / 2 ^ 52 - 1075)

theorem integer_size_value (number : Nat) (large : 52 ≤ number.log2) :
    sizeValue (integerSize number) = roundedSignificand number * 2 ^ (number.log2 - 52) := by
  have positive : number ≠ 0 := by
    rintro rfl
    exact absurd large (by decide)
  obtain ⟨least, greatest⟩ := significand_bounds number positive
  rw [integerSize, if_neg positive, sizeValue]
  rcases Nat.lt_or_eq_of_le greatest with less | carried
  · have rest : ((number.log2 + 1022) * 2 ^ 52 + roundedSignificand number) % 2 ^ 52 =
        roundedSignificand number - 2 ^ 52 := by omega
    have binade : ((number.log2 + 1022) * 2 ^ 52 + roundedSignificand number) / 2 ^ 52 - 1075 =
        number.log2 - 52 := by omega
    rw [rest, binade, Nat.add_sub_cancel' least]
  -- A carry makes the first significand of the next binade.
  · have rest : ((number.log2 + 1022) * 2 ^ 52 + 2 ^ 53) % 2 ^ 52 = 0 := by omega
    have binade : ((number.log2 + 1022) * 2 ^ 52 + 2 ^ 53) / 2 ^ 52 - 1075 =
        number.log2 - 52 + 1 := by omega
    rw [carried, rest, binade, Nat.pow_succ 2 (number.log2 - 52)]
    omega

theorem integer_size_near (number : Nat) (large : 2 ^ 53 ≤ number) (fits : number ≤ 2 ^ 63) :
    number ≤ sizeValue (integerSize number) + 512 ∧
      sizeValue (integerSize number) ≤ number + 512 := by
  have positive : number ≠ 0 := by omega
  have least : 53 ≤ number.log2 := (Nat.le_log2 positive).mpr large
  rw [integer_size_value number (by omega), roundedSignificand]
  rcases Nat.lt_or_eq_of_le fits with less | same
  · have greatest : number.log2 < 63 := (Nat.log2_lt positive).mpr less
    have unit : 2 ^ (number.log2 - 52) ≤ 2 ^ 10 := Nat.pow_le_pow_right (by decide) (by omega)
    have unscaled : 52 - number.log2 = 0 := by omega
    have error := nearest_integer_error number (2 ^ (number.log2 - 52)) (Nat.two_pow_pos _)
    rw [unscaled, Nat.pow_zero, Nat.mul_one]
    omega
  · subst same
    decide

/-- Integers of one size are the same, or large and close. -/
theorem same_size_close (number other : Nat) (fits : number ≤ 2 ^ 63) (otherFits : other ≤ 2 ^ 63)
    (same : integerSize number = integerSize other) :
    number = other ∨ 2 ^ 53 ≤ number ∧ 2 ^ 53 ≤ other ∧ number ≤ other + 1024 ∧
      other ≤ number + 1024 := by
  by_cases equal : number = other
  · exact .inl equal
  have large : 2 ^ 53 ≤ number ∧ 2 ^ 53 ≤ other := by
    rcases Nat.lt_or_gt_of_ne equal with less | greater
    · have first : ¬number < 2 ^ 53 := fun small =>
        Nat.ne_of_lt (integer_size_strict number other less small) same
      omega
    · have first : ¬other < 2 ^ 53 := fun small =>
        Nat.ne_of_lt (integer_size_strict other number greater small) same.symm
      omega
  have near := integer_size_near number large.1 fits
  have otherNear := integer_size_near other large.2 otherFits
  rw [same] at near
  omega

/-! The doubles of signed integers. -/

/-- The place of the double of an integer among all doubles. -/
def integerRank (number : Int) : Int :=
  if number < 0 then -(integerSize number.natAbs : Int) else integerSize number.natAbs

theorem integer_rank_mono {number other : Int} (below : number ≤ other) :
    integerRank number ≤ integerRank other := by
  rw [integerRank, integerRank]
  by_cases negative : number < 0
  · by_cases otherNegative : other < 0
    · have sizes := integer_size_mono other.natAbs number.natAbs (by omega)
      rw [if_pos negative, if_pos otherNegative]
      omega
    · rw [if_pos negative, if_neg otherNegative]
      omega
  · have sizes := integer_size_mono number.natAbs other.natAbs (by omega)
    rw [if_neg negative, if_neg (by omega)]
    omega

theorem integer_size_positive (number : Nat) (positive : number ≠ 0) : 0 < integerSize number :=
  integer_size_strict 0 number (Nat.pos_of_ne_zero positive) (by decide)

theorem same_rank (number other : Int) (same : integerRank number = integerRank other) :
    (number < 0 ↔ other < 0) ∧ integerSize number.natAbs = integerSize other.natAbs := by
  have size := integer_size_positive number.natAbs
  have otherSize := integer_size_positive other.natAbs
  rw [integerRank, integerRank] at same
  split at same <;> split at same <;> omega

/-- Two integers of 64 bits with one place are the same, or large, of one sign and close. -/
theorem same_rank_close (number other : Int) (fits : number.natAbs ≤ 2 ^ 63)
    (otherFits : other.natAbs ≤ 2 ^ 63) (same : integerRank number = integerRank other) :
    number = other ∨ (2 ^ 53 ≤ number ∧ 2 ^ 53 ≤ other ∨ number ≤ -2 ^ 53 ∧ other ≤ -2 ^ 53) ∧
      (number - other).natAbs ≤ 1024 := by
  obtain ⟨signs, sizes⟩ := same_rank number other same
  have close := same_size_close number.natAbs other.natAbs fits otherFits sizes
  by_cases negative : number < 0
  · have otherNegative := signs.mp negative
    omega
  · have otherNegative := mt signs.mpr negative
    omega

theorem size_of_size (negative : Bool) (size : Nat) (small : size < 2 ^ 63) :
    (ofSize negative size).size = size ∧ (ofSize negative size).isNegative = negative := by
  have bits : (ofSize negative size).bits.toNat = (if negative then 2 ^ 63 else 0) + size := by
    simp only [ofSize, UInt64.toNat_ofNat', Nat.pow_eq, Nat.mod_eq_of_lt small]
    apply Nat.mod_eq_of_lt
    split <;> omega
  rw [Binary64.size, isNegative, bits]
  simp only [Nat.pow_eq]
  cases negative <;> simp <;> omega

theorem of_int_size (number : Int) (fits : number.natAbs ≤ 2 ^ 63) :
    ofInt number = ofSize (number < 0) (integerSize number.natAbs) := by
  rw [ofInt, ofQuotient]
  by_cases zero : number = 0
  · subst zero
    rfl
  · have positive : number.natAbs ≠ 0 := Int.natAbs_ne_zero.mpr zero
    have bits : number.natAbs.log2 < 64 := (Nat.log2_lt positive).mpr (by omega)
    obtain ⟨significand, scale, nearest, size⟩ := nearest_of_integer number.natAbs positive bits
    rw [nearest]
    exact congrArg (ofSize _) size

theorem of_int_rank (number : Int) (fits : number.natAbs ≤ 2 ^ 63) :
    (ofInt number).isNaN = false ∧ (ofInt number).rank = integerRank number := by
  have finite := integer_size_finite number.natAbs fits
  have small : integerSize number.natAbs < 2 ^ 63 := Nat.lt_trans finite (by decide)
  obtain ⟨size, sign⟩ := size_of_size (number < 0) _ small
  rw [of_int_size number fits, isNaN, rank, size, sign]
  constructor
  · exact decide_eq_false (Nat.not_lt.mpr (Nat.le_of_lt finite))
  · simp [integerRank]

section

variable (number other : Int) (fits : number.natAbs ≤ 2 ^ 63) (otherFits : other.natAbs ≤ 2 ^ 63)

include fits otherFits

theorem of_int_compare :
    (ofInt number).compare? (ofInt other) =
      some (compare (integerRank number) (integerRank other)) := by
  obtain ⟨finite, place⟩ := of_int_rank number fits
  obtain ⟨otherFinite, otherPlace⟩ := of_int_rank other otherFits
  rw [compare?, finite, otherFinite, place, otherPlace]
  rfl

theorem of_int_eq_iff : ofInt number = ofInt other ↔ integerRank number = integerRank other := by
  constructor
  · intro same
    rw [← (of_int_rank number fits).2, same, (of_int_rank other otherFits).2]
  · intro same
    obtain ⟨signs, sizes⟩ := same_rank number other same
    rw [of_int_size number fits, of_int_size other otherFits, sizes]
    simp only [signs]

/-- The doubles of two integers are in the order of the integers, where they differ. -/
theorem of_int_less_iff :
    integerRank number < integerRank other ↔ number < other ∧ ofInt number ≠ ofInt other := by
  rw [Ne, of_int_eq_iff number other fits otherFits]
  constructor
  · intro less
    refine ⟨?_, Int.ne_of_lt less⟩
    exact Int.not_le.mp fun above => Int.not_le.mpr less (integer_rank_mono above)
  · rintro ⟨less, apart⟩
    exact lt_of_le_of_ne (integer_rank_mono (Int.le_of_lt less)) apart

end

end Binary64

end MarkupTemplate
