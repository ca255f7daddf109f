import MarkupTemplate.Value.Basic

/-!
Equality of values. Values of different kinds differ, an integer and a float of
the same size included. Lists are equal item by item; maps are equal when they
have the same number of entries and every entry of the left one is found on the
right, in whatever order; records when shape and fields agree. NaN equals nothing.
-/

namespace MarkupTemplate.Value

mutual

def equals : Value → Value → Bool
  | .null, .null => true
  | .bool left, .bool right => left == right
  | .int left, .int right => left == right
  | .float left, .float right => left.equals right
  | .string left, .string right => left == right
  | .list left, .list right => itemsEqual left right
  | .map left, .map right => left.length == right.length && entriesWithin left right
  | .record leftShape left _, .record rightShape right _ =>
      leftShape == rightShape && (left.length == right.length && entriesWithin left right)
  | _, _ => false

def itemsEqual : List Value → List Value → Bool
  | [], [] => true
  | left :: leftRest, right :: rightRest => equals left right && itemsEqual leftRest rightRest
  | _, _ => false

/-- Whether every entry on the left has an equal one on the right. -/
def entriesWithin : List (String × Value) → List (String × Value) → Bool
  | [], _ => true
  | (key, value) :: rest, right =>
      match Dict.find key right with
      | some found => equals value found && entriesWithin rest right
      | none => false

end

theorem entries_within_all (entries others : List (String × Value)) :
    entriesWithin entries others =
      (entries.map fun entry => (entry.1, entry.2.equals)).all fun entry =>
        (Dict.find entry.1 others).any entry.2 := by
  induction entries with
  | nil => rfl
  | cons entry rest ih =>
      obtain ⟨key, value⟩ := entry
      rw [entriesWithin, List.map_cons, List.all_cons, ← ih]
      cases Dict.find key others <;> rfl

end MarkupTemplate.Value
