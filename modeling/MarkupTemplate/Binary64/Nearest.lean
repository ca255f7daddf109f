import MarkupTemplate.Binary64.Basic

/-!
Rounding of exact quotients to the nearest number of a binary format, a tie to
the even significand. The quotient is scaled by a power of two until its integer part has as
many binary digits as the format keeps, and then rounded once.
-/

namespace MarkupTemplate

/-- A number is `significand * 2 ^ scale` with `significand < 2 ^ precision`. -/
structure BinaryFormat where
  precision : Nat
  leastScale : Int
  greatestScale : Int

def BinaryFormat.double : BinaryFormat := ⟨53, -1074, 971⟩

def BinaryFormat.single : BinaryFormat := ⟨24, -149, 104⟩

/-- The integer nearest to a quotient, the even one of two equally near. -/
def nearestInteger (num den : Nat) : Nat :=
  let below := num / den
  let twice := 2 * (num % den)
  if twice < den ∨ (twice = den ∧ below % 2 = 0) then below else below + 1

/-- The quotient divided by `2 ^ scale`, as a numerator and a denominator. -/
def scaledQuotient (num den : Nat) (scale : Int) : Nat × Nat :=
  (num * Nat.pow 2 (-scale).toNat, den * Nat.pow 2 scale.toNat)

/-- The scale at which the quotient has `precision` binary digits before the point. -/
def BinaryFormat.scaleOf (format : BinaryFormat) (num den : Nat) : Int :=
  let guess : Int := (num.log2 : Int) - den.log2 - format.precision
  let scaled := scaledQuotient num den guess
  let fitting := if Nat.pow 2 format.precision * scaled.2 ≤ scaled.1 then guess + 1 else guess
  max fitting format.leastScale

/-- Significand and scale of the nearest number of the format, or nothing where that is infinite. -/
def BinaryFormat.nearest (format : BinaryFormat) (num den : Nat) : Option (Nat × Int) :=
  if num = 0 then some (0, format.leastScale)
  else
    let scale := format.scaleOf num den
    let scaled := scaledQuotient num den scale
    let rounded := nearestInteger scaled.1 scaled.2
    let result :=
      if rounded = Nat.pow 2 format.precision then (Nat.pow 2 (format.precision - 1), scale + 1)
      else (rounded, scale)
    if result.2 ≤ format.greatestScale then some result else none

namespace Binary64

/-- The double nearest to a quotient. -/
def ofQuotient (negative : Bool) (num den : Nat) : Binary64 :=
  match BinaryFormat.double.nearest num den with
  | some (significand, scale) => ofSize negative ((scale + 1074).toNat * Nat.pow 2 52 + significand)
  | none => infinity negative

def ofInt (number : Int) : Binary64 := ofQuotient (number < 0) number.natAbs 1

/-- The absolute value of a finite number as a numerator and a denominator. -/
def quotient (x : Binary64) : Nat × Nat :=
  (x.significand * Nat.pow 2 x.scale.toNat, Nat.pow 2 (-x.scale).toNat)

/-- The nearest number of single precision, as a double. -/
def narrow (x : Binary64) : Binary64 :=
  if x.isFinite then
    match BinaryFormat.single.nearest x.quotient.1 x.quotient.2 with
    | some (significand, scale) =>
        ofQuotient x.isNegative (significand * Nat.pow 2 scale.toNat) (Nat.pow 2 (-scale).toNat)
    | none => infinity x.isNegative
  else x

end Binary64

end MarkupTemplate
