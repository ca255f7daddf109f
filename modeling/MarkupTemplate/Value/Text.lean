import MarkupTemplate.Json
import MarkupTemplate.Text.Quoted
import MarkupTemplate.Value.Basic

/-!
Texts of values. The display text is what a template prints: collections appear
as JSON, and a float never has an exponent. The dump names every variant and
quotes every string.
-/

namespace MarkupTemplate.Value

mutual

def toJson : Value → Json
  | .null => .null
  | .bool truth => .bool truth
  | .int number => .int number
  | .float number => if number.isFinite then .float number else .null
  | .string text => .string text
  | .list items => .array (itemsToJson items)
  | .map entries => .object (Dict.ascending (entriesToJson entries))
  | .record _ fields _ => .object (Dict.ascending (entriesToJson fields))

def itemsToJson : List Value → List Json
  | [] => []
  | item :: rest => toJson item :: itemsToJson rest

def entriesToJson : List (String × Value) → List (String × Json)
  | [] => []
  | (key, value) :: rest => (key, toJson value) :: entriesToJson rest

end

theorem items_to_json_map (items : List Value) : itemsToJson items = items.map toJson := by
  induction items with
  | nil => rfl
  | cons item rest ih => rw [itemsToJson, ih, List.map_cons]

theorem entries_to_json_map (entries : List (String × Value)) :
    entriesToJson entries = entries.map fun entry => (entry.1, toJson entry.2) := by
  induction entries with
  | nil => rfl
  | cons entry rest ih => rw [entriesToJson, ih, List.map_cons]

mutual

def ofJson : Json → Value
  | .null => .null
  | .bool truth => .bool truth
  | .int number => .int number
  | .float number => .float number
  | .string text => .string text
  | .array items => .list (itemsOfJson items)
  | .object members => .map (Dict.ofList (membersOfJson members))

def itemsOfJson : List Json → List Value
  | [] => []
  | item :: rest => ofJson item :: itemsOfJson rest

def membersOfJson : List (String × Json) → List (String × Value)
  | [] => []
  | (name, member) :: rest => (name, ofJson member) :: membersOfJson rest

end

/-- Floats are displayed plainly, without a point where they are integral. -/
def displayLayout : FloatLayout := ⟨.away, fun _ => true, false, false⟩

/-- A dump keeps the point. It writes an exponent below `0.0001`, and from ten to the sixteenth
on. -/
def dumpLayout : FloatLayout :=
  ⟨.away, fun exponent => -4 ≤ exponent ∧ exponent < 16, true, false⟩

def floatText (number : Binary64) : String := String.ofList (displayLayout.text number)

def display : Value → String
  | .null => ""
  | .bool truth => if truth then "true" else "false"
  | .int number => String.ofList (intText number.toInt)
  | .float number => floatText number
  | .string text => text
  | .list items => (toJson (.list items)).compact
  | .map entries => (toJson (.map entries)).compact
  | .record shape fields answers => (toJson (.record shape fields answers)).compact

mutual

def dump : Value → String
  | .null => "Null"
  | .bool truth => if truth then "Bool(true)" else "Bool(false)"
  | .int number => "Int(" ++ String.ofList (intText number.toInt) ++ ")"
  | .float number => "Float(" ++ String.ofList (dumpLayout.text number) ++ ")"
  | .string text => "String(" ++ Quoted.text text ++ ")"
  | .list items => "List([" ++ ", ".intercalate (itemDumps items) ++ "])"
  | .map entries => "Map(\x7b" ++ ", ".intercalate (entryDumps entries) ++ "\x7d)"
  | .record shape fields _ =>
      let shown := ", ".intercalate (fieldDumps fields)
      "Record(" ++ shape ++ (if fields.isEmpty then "" else " \x7b " ++ shown ++ " \x7d") ++ ")"

def itemDumps : List Value → List String
  | [] => []
  | item :: rest => dump item :: itemDumps rest

def entryDumps : List (String × Value) → List String
  | [] => []
  | (key, value) :: rest => (Quoted.text key ++ ": " ++ dump value) :: entryDumps rest

def fieldDumps : List (String × Value) → List String
  | [] => []
  | (name, value) :: rest => (name ++ ": " ++ dump value) :: fieldDumps rest

end

end MarkupTemplate.Value
