import MarkupTemplate.Binary64.Nearest
import MarkupTemplate.Binary64.Reader

/-!
The shortest decimal that reads back as a given double, and of several shortest
ones the nearest. The reals that round to the double form an interval; on ever
finer decimal grids the two grid points around the double are tested for lying in it.
-/

namespace MarkupTemplate

/-- Which of two equally near decimals is written. -/
inductive Tie where
  | even
  | away
  deriving DecidableEq

namespace Binary64

/-- The lower end of the interval around the double, in units of `2 ^ (scale - 2)`. -/
def lowerEnd (x : Binary64) : Nat :=
  if x.size % Nat.pow 2 52 = 0 ∧ 1 < x.size / Nat.pow 2 52 then 4 * x.significand - 1
  else 4 * x.significand - 2

def upperEnd (x : Binary64) : Nat := 4 * x.significand + 2

/-- Compares `number * 10 ^ exponent` with `units * 2 ^ (scale - 2)`. -/
def compareWithUnits (x : Binary64) (number : Decimal) (units : Nat) : Ordering :=
  let scale := x.scale - 2
  compare (number.coefficient * Nat.pow 10 number.exponent.toNat * Nat.pow 2 (-scale).toNat)
    (units * Nat.pow 2 scale.toNat * Nat.pow 10 (-number.exponent).toNat)

/-- Whether a decimal rounds to the double. The ends of the interval do if the significand is
even. -/
def readsBack (x : Binary64) (number : Decimal) : Bool :=
  let low := x.compareWithUnits number x.lowerEnd
  let high := x.compareWithUnits number x.upperEnd
  let closed := x.significand % 2 == 0
  (low == .gt || (closed && low == .eq)) && (high == .lt || (closed && high == .eq))

/-- The decimal exponent just above the leading digit: the value is below `10 ^ magnitude`. -/
def magnitude (x : Binary64) : Int :=
  let (num, den) := x.quotient
  if den ≤ num then (numeral 10 (num / den)).length
  else
    let places := (numeral 10 (den / num)).length
    if den ≤ num * Nat.pow 10 (places - 1) then 2 - places else 1 - places

/-- The neighbours of the value on the grid of multiples of `10 ^ exponent`. -/
def gridBelow (x : Binary64) (exponent : Int) : Decimal :=
  let (num, den) := x.quotient
  ⟨num * Nat.pow 10 (-exponent).toNat / (den * Nat.pow 10 exponent.toNat), exponent⟩

def gridAbove (x : Binary64) (exponent : Int) : Decimal :=
  let below := x.gridBelow exponent
  { below with coefficient := below.coefficient + 1 }

/-- The nearer of the two grid neighbours: their middle is compared with the value. -/
def nearerOnGrid (tie : Tie) (x : Binary64) (exponent : Int) : Decimal :=
  let below := x.gridBelow exponent
  let above := x.gridAbove exponent
  let middle : Decimal := ⟨(below.coefficient + above.coefficient) * 5, exponent - 1⟩
  match x.compareWithUnits middle (4 * x.significand) with
  | .gt => below
  | .lt => above
  | .eq => if tie = .even ∧ below.coefficient % 2 = 0 then below else above

def shortestOnGrid? (tie : Tie) (x : Binary64) (exponent : Int) : Option Decimal :=
  match x.readsBack (x.gridBelow exponent), x.readsBack (x.gridAbove exponent) with
  | true, true => some (x.nearerOnGrid tie exponent)
  | true, false => some (x.gridBelow exponent)
  | false, true => some (x.gridAbove exponent)
  | false, false => none

/-- Tries one digit, two digits and so on; seventeen always suffice. -/
def shortest (tie : Tie) (x : Binary64) : Decimal :=
  let grids := (List.range 17).map fun (more : Nat) => x.magnitude - 1 - (more : Int)
  (grids.findSome? (x.shortestOnGrid? tie)).getD (x.gridBelow (x.magnitude - 17))

end Binary64

end MarkupTemplate
