/-!
Numerals in a positional base. Letters of either case stand for the digits from
ten on; a base says how many of them count. Main statement: the value of a row is built up
digit by digit, however the row is cut to compute it.
-/

namespace MarkupTemplate

def digitOf (c : Char) : Option Nat :=
  if '0' ≤ c ∧ c ≤ '9' then some (c.toNat - 48)
  else if 'a' ≤ c ∧ c ≤ 'z' then some (c.toNat - 87)
  else if 'A' ≤ c ∧ c ≤ 'Z' then some (c.toNat - 55)
  else none

def digitIn (base : Nat) (c : Char) : Option Nat :=
  (digitOf c).filter (· < base)

def isDigitIn (base : Nat) (c : Char) : Bool := (digitIn base c).isSome

def addDigit (base : Nat) (total : Nat) (c : Char) : Nat :=
  base * total + (digitOf c).getD 0

/-- The value of a row that may still be halved so many times. Halves keep the work on a long row
below the square of its length. -/
def valueByHalves (base : Nat) : Nat → List Char → Nat
  | 0, digits => digits.foldl (addDigit base) 0
  | cuts + 1, digits =>
      if digits.length ≤ 256 then digits.foldl (addDigit base) 0
      else
        let half := digits.length / 2
        valueByHalves base cuts (digits.take half) * Nat.pow base (digits.drop half).length +
          valueByHalves base cuts (digits.drop half)

/-- The number that a row of digits denotes, most significant digit first. -/
def numeralValue (base : Nat) (digits : List Char) : Nat :=
  valueByHalves base digits.length digits

theorem foldl_addDigit (base total : Nat) (digits : List Char) :
    digits.foldl (addDigit base) total =
      total * Nat.pow base digits.length + digits.foldl (addDigit base) 0 := by
  induction digits generalizing total with
  | nil => simp
  | cons c rest ih =>
      have power : Nat.pow base (rest.length + 1) = Nat.pow base rest.length * base := rfl
      rw [List.foldl_cons, List.foldl_cons, ih, ih (addDigit base 0 c)]
      simp only [addDigit, List.length_cons, power, Nat.add_mul, Nat.mul_zero, Nat.zero_add]
      rw [Nat.add_assoc, Nat.mul_comm base total, Nat.mul_assoc,
        Nat.mul_comm base (Nat.pow base rest.length)]

theorem valueByHalves_eq_foldl (base cuts : Nat) (digits : List Char) :
    valueByHalves base cuts digits = digits.foldl (addDigit base) 0 := by
  induction cuts generalizing digits with
  | zero => rfl
  | succ cuts ih =>
      rw [valueByHalves]
      split
      · rfl
      · simp only [ih]
        rw [← foldl_addDigit, ← List.foldl_append, List.take_append_drop]

/-- The value of a row is built up from its first digit on. -/
theorem numeralValue_eq_foldl (base : Nat) (digits : List Char) :
    numeralValue base digits = digits.foldl (addDigit base) 0 :=
  valueByHalves_eq_foldl base digits.length digits

/-- Reads a whole text as a row of at least one digit. -/
def readNumeral (base : Nat) (text : List Char) : Option Nat :=
  if text ≠ [] ∧ text.all (isDigitIn base) then some (numeralValue base text) else none

/-- Reads a whole text as an optional sign and, behind it, a size. -/
def readSigned (readSize : List Char → Option Nat) : List Char → Option Int
  | '+' :: digits => (readSize digits).map Int.ofNat
  | '-' :: digits => (readSize digits).map fun size => -Int.ofNat size
  | digits => (readSize digits).map Int.ofNat

/-- Reads a whole text as an optional sign and at least one digit. -/
def readSignedNumeral (base : Nat) (text : List Char) : Option Int :=
  readSigned (readNumeral base) text

/-- The digits of a number in a base of at most sixteen, letters in lower case. -/
def numeral (base : Nat) (number : Nat) : List Char := Nat.toDigits base number

def intText (number : Int) : List Char :=
  if number < 0 then '-' :: numeral 10 number.natAbs else numeral 10 number.natAbs

/-- The character of a code point, or the replacement character where no character has it. -/
def characterOf (code : Nat) : Char :=
  if code.isValidChar then Char.ofNat code else '\uFFFD'

end MarkupTemplate
