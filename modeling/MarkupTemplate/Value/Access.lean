import MarkupTemplate.Value.Text

/-!
Parts of values: the member that a name reads, what an index reads, and the
items that a loop visits.
-/

namespace MarkupTemplate.Value

/-- An entry of a map, or a field of a record by any of its names. -/
def member (name : String) : Value → Option Value
  | .map entries => Dict.find name entries
  | .record _ _ answers => Dict.find name answers
  | _ => none

def ofChar (c : Char) : Value := .string (String.singleton c)

/-- The item at the position that a value gives. -/
def itemAt {α : Type} (items : List α) (position : Value) : Option α :=
  match position.asInt with
  | some number => if number < 0 then none else items[number.toInt.toNat]?
  | none => none

/-- Reads a list by position, a string by character, a map by the text of the key, and a record by
name. -/
def atIndex (base position : Value) : Option Value :=
  match base with
  | .list items => itemAt items position
  | .string text => (itemAt text.toList position).map ofChar
  | .map entries => if position.isNull then none else Dict.find position.display entries
  | .record _ _ answers =>
      match position with
      | .string name => Dict.find name answers
      | _ => none
  | _ => none

/-- What a loop over a value visits: the items of a list, the keys of a map in ascending order, or
the characters of a string. -/
def loopItems : Value → Option (List Value)
  | .list items => some items
  | .map entries => some ((Dict.keys (Dict.ascending entries)).map .string)
  | .string text => some (text.toList.map ofChar)
  | _ => none

end MarkupTemplate.Value
