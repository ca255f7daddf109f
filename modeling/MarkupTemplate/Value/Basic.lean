import MarkupTemplate.Binary64.Reader
import MarkupTemplate.Dict

/-!
Dynamic values. Template variables, attributes, results of expressions and the
attribute maps that records are bound from are all values of this one closed type. A
record handle gives read access to a typed record: its readable fields, and what
each name, aliases included, answers.
-/

namespace MarkupTemplate

inductive Value where
  | null
  | bool (truth : Bool)
  | int (number : Int64)
  | float (number : Binary64)
  | string (text : String)
  | list (items : List Value)
  | map (entries : List (String × Value))
  | record (shape : String) (fields answers : List (String × Value))

namespace Value

def kind : Value → String
  | .null => "null"
  | .bool _ => "bool"
  | .int _ => "int"
  | .float _ => "float"
  | .string _ => "string"
  | .list _ => "list"
  | .map _ => "map"
  | .record _ _ _ => "record"

def isNull : Value → Bool
  | .null => true
  | _ => false

/-- Null, zero and whatever is empty count as false. -/
def isTruthy : Value → Bool
  | .null => false
  | .bool truth => truth
  | .int number => number ≠ 0
  | .float number => !number.isZero
  | .string text => text ≠ ""
  | .list items => !items.isEmpty
  | .map entries => !entries.isEmpty
  | .record _ _ _ => true

def asString : Value → Option String
  | .string text => some text
  | _ => none

/-- Numbers, and strings that hold a decimal number. -/
def asFloat : Value → Option Binary64
  | .int number => some (Binary64.ofInt number.toInt)
  | .float number => some number
  | .string text => Binary64.ofText text
  | _ => none

def fitsInt64 (number : Int) : Bool :=
  -(Nat.pow 2 63 : Int) ≤ number ∧ number < (Nat.pow 2 63 : Int)

def int64OfText (text : String) : Option Int64 :=
  ((readSignedNumeral 10 text.toList).filter fitsInt64).map Int64.ofInt

/-- Integers, and strings that hold a decimal integer; floats are no integers. -/
def asInt : Value → Option Int64
  | .int number => some number
  | .string text => int64OfText text
  | _ => none

/-- An integer as it is, or the nearest float where it does not fit. -/
def ofInteger (number : Int) : Value :=
  if fitsInt64 number then .int (Int64.ofInt number) else .float (Binary64.ofInt number)

end Value

end MarkupTemplate
