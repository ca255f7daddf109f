/-!
Numbers of the 64-bit binary floating-point format, kept as their bits. Sign,
size and order are read off the bits, so equality and comparison are exact and
need no arithmetic of the machine. Only sums, differences, products and
quotients are left to it.
-/

namespace MarkupTemplate

structure Binary64 where
  bits : UInt64
  deriving DecidableEq

namespace Binary64

def isNegative (x : Binary64) : Bool := Nat.pow 2 63 ≤ x.bits.toNat

/-- The bits below the sign. They grow with the absolute value. -/
def size (x : Binary64) : Nat := x.bits.toNat % Nat.pow 2 63

def infiniteSize : Nat := 0x7FF * Nat.pow 2 52

def isNaN (x : Binary64) : Bool := infiniteSize < x.size

def isInfinite (x : Binary64) : Bool := x.size == infiniteSize

def isFinite (x : Binary64) : Bool := x.size < infiniteSize

def ofSize (negative : Bool) (size : Nat) : Binary64 :=
  ⟨UInt64.ofNat ((if negative then Nat.pow 2 63 else 0) + size % Nat.pow 2 63)⟩

def zero : Binary64 := ofSize false 0

def infinity (negative : Bool) : Binary64 := ofSize negative infiniteSize

def nan : Binary64 := ofSize false (infiniteSize + Nat.pow 2 51)

/-- The place of a number that is not NaN among all others; both zeros have the place zero. -/
def rank (x : Binary64) : Int := if x.isNegative then -(x.size : Int) else x.size

def equals (x y : Binary64) : Bool := !x.isNaN && !y.isNaN && x.rank == y.rank

def compare? (x y : Binary64) : Option Ordering :=
  if x.isNaN || y.isNaN then none else some (compare x.rank y.rank)

def isZero (x : Binary64) : Bool := x.size == 0

def negate (x : Binary64) : Binary64 := ofSize (!x.isNegative) x.size

/-- A finite number is its sign times `significand * 2 ^ scale`. -/
def significand (x : Binary64) : Nat :=
  if x.size / Nat.pow 2 52 = 0 then x.size else Nat.pow 2 52 + x.size % Nat.pow 2 52

def scale (x : Binary64) : Int := (max 1 (x.size / Nat.pow 2 52) : Nat) - 1075

/-- The integer part of a finite number. -/
def truncate (x : Binary64) : Option Int :=
  if x.isFinite then
    let size := x.significand * Nat.pow 2 x.scale.toNat / Nat.pow 2 (-x.scale).toNat
    some (if x.isNegative then -(size : Int) else size)
  else none

def onMachine (operation : Float → Float → Float) (x y : Binary64) : Binary64 :=
  ⟨(operation (Float.ofBits x.bits) (Float.ofBits y.bits)).toBits⟩

def add (x y : Binary64) : Binary64 := onMachine (· + ·) x y

def subtract (x y : Binary64) : Binary64 := onMachine (· - ·) x y

def multiply (x y : Binary64) : Binary64 := onMachine (· * ·) x y

def divide (x y : Binary64) : Binary64 := onMachine (· / ·) x y

theorem equals_comm (x y : Binary64) : x.equals y = y.equals x := by
  simp only [equals, Bool.and_comm (!x.isNaN), Bool.beq_comm (a := x.rank)]

theorem equals_self_iff (x : Binary64) : x.equals x = true ↔ x.isNaN = false := by
  simp [equals]

theorem equals_trans (x y z : Binary64) (first : x.equals y = true) (second : y.equals z = true) :
    x.equals z = true := by
  simp only [equals, Bool.and_eq_true, beq_iff_eq] at first second ⊢
  exact ⟨⟨first.1.1, second.1.2⟩, first.2.trans second.2⟩

theorem compare_swap (x y : Binary64) : y.compare? x = (x.compare? y).map Ordering.swap := by
  rw [compare?, compare?, Bool.or_comm]
  split
  · rfl
  · exact congrArg some Std.OrientedOrd.eq_swap

theorem compare_some_iff (x y : Binary64) (ordering : Ordering) :
    x.compare? y = some ordering ↔
      x.isNaN = false ∧ y.isNaN = false ∧ compare x.rank y.rank = ordering := by
  simp only [compare?, Bool.or_eq_true]
  cases x.isNaN <;> cases y.isNaN <;> simp

theorem compare_trans (x y z : Binary64) (first : x.compare? y = some .lt)
    (second : y.compare? z = some .lt) : x.compare? z = some .lt := by
  rw [compare_some_iff] at first second ⊢
  exact ⟨first.1, second.2.1, Std.TransCmp.lt_trans first.2.2 second.2.2⟩

end Binary64

end MarkupTemplate
