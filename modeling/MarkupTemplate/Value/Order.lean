import MarkupTemplate.Value.Basic

/-!
The order of values. Where the left value reads as a number the right one has to
read as one too, and the numbers are compared as floats. Otherwise two strings are ordered by code
point and two truth values with false first; all other pairs have no order.
-/

namespace MarkupTemplate.Value

def compare? (left right : Value) : Option Ordering :=
  match left.asFloat with
  | some number => right.asFloat.bind number.compare?
  | none =>
      match left, right with
      | .string leftText, .string rightText => some (compare leftText rightText)
      | .bool leftTruth, .bool rightTruth => some (compare leftTruth rightTruth)
      | _, _ => none

end MarkupTemplate.Value
