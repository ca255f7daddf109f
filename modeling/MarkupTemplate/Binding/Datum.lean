import MarkupTemplate.Binding.Error
import MarkupTemplate.Binding.Type
import MarkupTemplate.Value.Text

/-!
Typed data. An atom is read from a value by rules of its type: null gives the
zero of the type, integers are checked against their range, floats lose their fraction, and
texts are parsed. Everything else is data built from atoms, floats and values.
-/

namespace MarkupTemplate

inductive Atom where
  | bool (truth : Bool)
  | char (c : Char)
  | int (number : Int)
  | string (text : String)
  deriving DecidableEq

namespace Atom

def zero : AtomType → Atom
  | .bool => .bool false
  | .char => .char '\x00'
  | .int _ => .int 0
  | .string => .string ""

def text : Atom → String
  | .bool truth => if truth then "true" else "false"
  | .char c => String.singleton c
  | .int number => String.ofList (intText number)
  | .string content => content

/-- Atoms of one type are ordered as usual, false before true. -/
def order : Atom → Atom → Ordering
  | .bool left, .bool right => compare left right
  | .char left, .char right => compare left right
  | .int left, .int right => compare left right
  | .string left, .string right => compare left right
  | left, right => compare left.text right.text

def orderByText (left right : Atom) : Ordering := compare left.text right.text

def toValue : Atom → Value
  | .bool truth => .bool truth
  | .char c => .string (String.singleton c)
  | .int number => Value.ofInteger number
  | .string content => .string content

def truthOfText (content : String) : Option Bool :=
  if ["1", "t", "T", "TRUE", "true", "True"].contains content then some true
  else if ["0", "f", "F", "FALSE", "false", "False"].contains content then some false
  else none

def boolOfValue : Value → Except ConvertError Bool
  | .null => .ok false
  | .bool truth => .ok truth
  | .string content =>
      match truthOfText content with
      | some truth => .ok truth
      | none => .error (.unreadable content AtomType.bool.name)
  | value => .error (.unsupported value.kind AtomType.bool.name)

/-- The character with a code point that an integer gives. -/
def charOfCode (code : Int) : Option Char :=
  if 0 ≤ code ∧ code.toNat.isValidChar then some (Char.ofNat code.toNat) else none

def charOfValue (value : Value) : Except ConvertError Char :=
  match value with
  | .null => .ok '\x00'
  | .string content =>
      match content.toList with
      | [c] => .ok c
      | _ => .error (.unreadable content AtomType.char.name)
  | .int number =>
      match charOfCode number.toInt with
      | some c => .ok c
      | none => .error (.unreadable value.display AtomType.char.name)
  | _ => .error (.unsupported value.kind AtomType.char.name)

/-- Integers on their way to a narrower type have 128 bits. -/
def leastWide : Int := -(Nat.pow 2 127 : Int)

def greatestWide : Int := (Nat.pow 2 127 : Int) - 1

def wideOfText (content : String) : Option Int :=
  (readSignedNumeral 10 content.toList).filter fun number =>
    leastWide ≤ number ∧ number ≤ greatestWide

def clampWide (number : Int) : Int := max leastWide (min greatestWide number)

def wideOfValue (target : String) : Value → Except ConvertError Int
  | .null => .ok 0
  | .int number => .ok number.toInt
  | .float number =>
      match number.truncate with
      | some integral => .ok (clampWide integral)
      | none => .error (.outOfRange (Value.floatText number) target)
  | .string content =>
      match wideOfText content with
      | some number => .ok number
      | none => .error (.unreadable content target)
  | value => .error (.unsupported value.kind target)

def isNegativeFloat : Value → Bool
  | .float number => number.compare? .zero == some .lt
  | _ => false

def intOfValue (kind : IntKind) (value : Value) : Except ConvertError Int :=
  if !kind.signed && isNegativeFloat value then .error (.negative value.display kind.name)
  else do
    let number ← wideOfValue kind.name value
    let shown := String.ofList (intText number)
    if number < 0 ∧ kind.signed = false then .error (.negative shown kind.name)
    else if kind.least ≤ number ∧ number ≤ kind.greatest then .ok number
    else .error (.outOfRange shown kind.name)

def ofValue (type : AtomType) (value : Value) : Except ConvertError Atom :=
  match type with
  | .bool => (boolOfValue value).map .bool
  | .char => (charOfValue value).map .char
  | .int kind => (intOfValue kind value).map .int
  | .string => .ok (.string value.display)

end Atom

def Binary64.ofValue : Value → Except ConvertError Binary64
  | .null => .ok .zero
  | .int number => .ok (.ofInt number.toInt)
  | .float number => .ok number
  | .string content =>
      match Binary64.ofText content with
      | some number => .ok number
      | none => .error (.unreadable content Ty.float64.name)
  | value => .error (.unsupported value.kind Ty.float64.name)

/-- Data of some type. A record holds one datum for every declared field. -/
inductive Datum where
  | atom (content : Atom)
  | float (number : Binary64)
  | value (content : Value)
  | absent
  | present (item : Datum)
  | list (items : List Datum)
  | map (entries : List (Atom × Datum))
  | record (shape : String) (members : List Datum)

/-- Puts converted entries into the order of a map, the last one of a repeated key. -/
def MapOrder.arrange (order : MapOrder) (entries : List (Atom × Datum)) : List (Atom × Datum) :=
  match order with
  | .text => orderedBy Atom.orderByText entries
  | .ascending => orderedBy Atom.order entries
  | .insertion => entries.foldl (fun kept entry => replaceOrAppend entry kept) []
where
  replaceOrAppend (entry : Atom × Datum) : List (Atom × Datum) → List (Atom × Datum)
    | [] => [entry]
    | (key, datum) :: rest =>
        if key = entry.1 then entry :: rest else (key, datum) :: replaceOrAppend entry rest

end MarkupTemplate
