import MarkupTemplate.Binary64.Nearest
import MarkupTemplate.Text.Digits

/-!
Reading a double from decimal text: an optional sign, then the word for an
infinity or NaN, or digits with an optional point and an optional exponent. At
least one digit stands before the exponent, on either side of the point. The result is the
double nearest to the number written, however many digits it has; only an exponent is cut
off, at a size that no text of a sensible length reaches.
-/

namespace MarkupTemplate

/-- A non-negative decimal number `coefficient * 10 ^ exponent`. -/
structure Decimal where
  coefficient : Nat
  exponent : Int
  deriving DecidableEq

namespace Decimal

/-- Splits off the digits at the start of a text. -/
def spanDigits (text : List Char) : List Char × List Char :=
  (text.takeWhile Char.isDigit, text.dropWhile Char.isDigit)

/-- The digits of an exponent count until their number reaches this bound; later ones are passed
over. -/
def exponentBound : Nat := 65536

def addExponentDigit (size : Nat) (c : Char) : Nat :=
  if size < exponentBound then addDigit 10 size c else size

/-- Reads the size of an exponent: at least one digit, and nothing else. -/
def readExponentSize (digits : List Char) : Option Nat :=
  if digits ≠ [] ∧ digits.all Char.isDigit then some (digits.foldl addExponentDigit 0) else none

/-- Reads the rest of a numeral behind its digits: nothing, or an exponent. -/
def readExponent : List Char → Option Int
  | [] => some 0
  | mark :: rest => if mark = 'e' ∨ mark = 'E' then readSigned readExponentSize rest else none

/-- Reads an unsigned decimal numeral. -/
def read (text : List Char) : Option Decimal :=
  let whole := spanDigits text
  let fraction :=
    match whole.2 with
    | '.' :: rest => spanDigits rest
    | rest => ([], rest)
  if whole.1 = [] ∧ fraction.1 = [] then none
  else
    (readExponent fraction.2).map fun exponent =>
      ⟨numeralValue 10 (whole.1 ++ fraction.1), exponent - fraction.1.length⟩

end Decimal

namespace Binary64

/-- The nearest double. Far beyond the range of doubles the exact quotient is not formed: three
binary digits are less than one decimal digit, and four are more. -/
def ofDecimal (negative : Bool) (number : Decimal) : Binary64 :=
  let bits : Int := number.coefficient.log2
  if number.coefficient = 0 ∨ bits / 3 + 1 + number.exponent < -330 then ofSize negative 0
  else if 330 < bits / 4 + number.exponent then infinity negative
  else
    ofQuotient negative (number.coefficient * Nat.pow 10 number.exponent.toNat)
      (Nat.pow 10 (-number.exponent).toNat)

def readUnsigned (negative : Bool) (text : List Char) : Option Binary64 :=
  let word := text.map Char.toLower
  if word = "inf".toList ∨ word = "infinity".toList then some (infinity negative)
  else if word = "nan".toList then some nan
  else (Decimal.read text).map (ofDecimal negative)

def read : List Char → Option Binary64
  | '-' :: rest => readUnsigned true rest
  | '+' :: rest => readUnsigned false rest
  | text => readUnsigned false text

/-- Reads a whole text as a double. -/
def ofText (text : String) : Option Binary64 := read text.toList

end Binary64

end MarkupTemplate
