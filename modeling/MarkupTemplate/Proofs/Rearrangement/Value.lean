import MarkupTemplate.Value.Access
import MarkupTemplate.Value.Equality
import MarkupTemplate.Value.Order
import Mathlib.Data.List.Forall2

/-!
Values up to the order of map entries, at every depth. A map keeps the order in which its entries
came, but nothing that is read off a value shows it: rearranged values have the same kind,
truth, number and text, compare and are equal alike, and what a name, an index or a loop reads
from them is rearranged again.
-/

namespace MarkupTemplate.Value

/-- The same value, but for the order in which the entries of its maps came. -/
inductive Rearranged : Value → Value → Prop where
  | same (value : Value) : Rearranged value value
  | list (left right : List Value) (lengths : left.length = right.length)
      (items : ∀ (index : Nat) (inLeft : index < left.length) (inRight : index < right.length),
        Rearranged left[index] right[index]) :
      Rearranged (.list left) (.list right)
  | map (left right : Dict Value) (distinct : Dict.Distinct left)
      (keys : (Dict.keys left).Perm (Dict.keys right))
      (entries : ∀ (key : String) (first second : Value), Dict.find key left = some first →
        Dict.find key right = some second → Rearranged first second) :
      Rearranged (.map left) (.map right)

/-- Equality cannot tell the two values apart, on either of its sides. -/
structure Indistinct (left right : Value) : Prop where
  before : ∀ other : Value, left.equals other = right.equals other
  behind : ∀ other : Value, other.equals left = other.equals right

theorem map_alike {α β γ : Type} (first : α → γ) (second : β → γ) (left : List α)
    (right : List β) (alike : List.Forall₂ (fun one other => first one = second other) left right) :
    left.map first = right.map second := by
  rw [← List.forall₂_eq_eq_eq, List.forall₂_map_left_iff, List.forall₂_map_right_iff]
  exact alike

theorem items_equal_before (left right others : List Value)
    (alike : List.Forall₂ Indistinct left right) :
    itemsEqual left others = itemsEqual right others := by
  induction alike generalizing others with
  | nil => rfl
  | cons head _ ih =>
      cases others with
      | nil => rfl
      | cons other rest => rw [itemsEqual, itemsEqual, head.before, ih]

theorem items_equal_behind (left right others : List Value)
    (alike : List.Forall₂ Indistinct left right) :
    itemsEqual others left = itemsEqual others right := by
  induction alike generalizing others with
  | nil => rfl
  | cons head _ ih =>
      cases others with
      | nil => rfl
      | cons other rest => rw [itemsEqual, itemsEqual, head.behind, ih]

theorem entries_within_behind (left right others : Dict Value)
    (alike : ∀ key, Option.Rel Indistinct (Dict.find key left) (Dict.find key right)) :
    entriesWithin others left = entriesWithin others right := by
  induction others with
  | nil => rfl
  | cons entry rest ih =>
      obtain ⟨key, value⟩ := entry
      rw [entriesWithin, entriesWithin, ih]
      have found := alike key
      generalize Dict.find key left = first, Dict.find key right = second at found
      cases found with
      | none => rfl
      | some same => simp only [same.behind]

theorem length_of_keys (left right : Dict Value) (keys : (Dict.keys left).Perm (Dict.keys right)) :
    left.length = right.length := by
  simpa [Dict.keys] using keys.length_eq

theorem is_empty_of_length {α : Type} (left right : List α) (same : left.length = right.length) :
    left.isEmpty = right.isEmpty := by
  rw [Bool.eq_iff_iff, List.isEmpty_iff_length_eq_zero, List.isEmpty_iff_length_eq_zero, same]

namespace Rearranged

variable {left right : Value}

theorem symm (rearranged : Rearranged left right) : Rearranged right left := by
  induction rearranged with
  | same value => exact .same value
  | list left right lengths _ ih =>
      exact .list right left lengths.symm fun index inRight inLeft => ih index inLeft inRight
  | map left right distinct keys _ ih =>
      exact .map right left (keys.nodup_iff.mp distinct) keys.symm
        fun key second first onRight onLeft => ih key first second onLeft onRight

theorem trans {third : Value} (first : Rearranged left right) (second : Rearranged right third) :
    Rearranged left third := by
  induction first generalizing third with
  | same => exact second
  | list left right lengths items ih =>
      cases second with
      | same => exact .list left right lengths items
      | list _ third others more =>
          exact .list left third (lengths.trans others) fun index inLeft inThird =>
            ih index inLeft (lengths ▸ inLeft) (more index (lengths ▸ inLeft) inThird)
  | map left right distinct keys entries ih =>
      cases second with
      | same => exact .map left right distinct keys entries
      | map _ third _ others more =>
          refine .map left third distinct (keys.trans others) ?_
          intro key first last onLeft onThird
          have both := Dict.find_related Rearranged left right keys entries key
          cases onMiddle : Dict.find key right with
          | none =>
              rw [onLeft, onMiddle] at both
              cases both
          | some middle =>
              exact ih key first middle onLeft onMiddle (more key middle last onMiddle onThird)

/-- Moving the entries of a map rearranges it. -/
theorem of_perm (entries others : Dict Value) (distinct : Dict.Distinct entries)
    (moved : entries.Perm others) : Rearranged (.map entries) (.map others) := by
  refine .map entries others distinct (moved.map Prod.fst) ?_
  intro key first second onLeft onRight
  have placed := moved.mem_iff.mpr (Dict.mem_of_find others key second onRight)
  rw [Dict.find_of_mem entries key second distinct placed] at onLeft
  cases onLeft
  exact .same first

theorem json (rearranged : Rearranged left right) : left.toJson = right.toJson := by
  induction rearranged with
  | same => rfl
  | list left right lengths _ ih =>
      rw [toJson, toJson, items_to_json_map, items_to_json_map]
      exact congrArg Json.array
        (map_alike toJson toJson left right (List.forall₂_iff_get.mpr ⟨lengths, ih⟩))
  | map left right distinct keys _ ih =>
      rw [toJson, toJson, entries_to_json_map, entries_to_json_map]
      refine congrArg Json.object (Dict.ascending_of_perm _ _ ?_ ?_)
      · rwa [Dict.Distinct, Dict.keys_map_values]
      · exact Dict.perm_map_values toJson toJson left right distinct keys ih

theorem display (rearranged : Rearranged left right) : left.display = right.display := by
  have same := rearranged.json
  cases rearranged with
  | same => rfl
  | list => rw [Value.display, Value.display, same]
  | map => rw [Value.display, Value.display, same]

theorem kind (rearranged : Rearranged left right) : left.kind = right.kind := by
  cases rearranged <;> rfl

theorem isNull (rearranged : Rearranged left right) : left.isNull = right.isNull := by
  cases rearranged <;> rfl

theorem asFloat (rearranged : Rearranged left right) : left.asFloat = right.asFloat := by
  cases rearranged <;> rfl

theorem asInt (rearranged : Rearranged left right) : left.asInt = right.asInt := by
  cases rearranged <;> rfl

theorem isTruthy (rearranged : Rearranged left right) : left.isTruthy = right.isTruthy := by
  cases rearranged with
  | same => rfl
  | list left right lengths _ =>
      rw [Value.isTruthy, Value.isTruthy, is_empty_of_length left right lengths]
  | map left right _ keys _ =>
      rw [Value.isTruthy, Value.isTruthy,
        is_empty_of_length left right (length_of_keys left right keys)]

-- As the left operand a map is searched entry by entry, so the entries may be moved; as the right
-- one it is only asked for keys.
theorem indistinct (rearranged : Rearranged left right) : Indistinct left right := by
  induction rearranged with
  | same => exact ⟨fun _ => rfl, fun _ => rfl⟩
  | list left right lengths _ ih =>
      have alike : List.Forall₂ Indistinct left right := List.forall₂_iff_get.mpr ⟨lengths, ih⟩
      constructor
      · intro other
        cases other with
        | list others => exact items_equal_before left right others alike
        | _ => rfl
      · intro other
        cases other with
        | list others => exact items_equal_behind left right others alike
        | _ => rfl
  | map left right distinct keys _ ih =>
      have lengths := length_of_keys left right keys
      constructor
      · intro other
        cases other with
        | map others =>
            have same : ∀ key first second, Dict.find key left = some first →
                Dict.find key right = some second → first.equals = second.equals :=
              fun key first second onLeft onRight =>
                funext (ih key first second onLeft onRight).before
            have moved := Dict.perm_map_values equals equals left right distinct keys same
            rw [equals, equals, lengths, entries_within_all, entries_within_all, moved.all_eq]
        | _ => rfl
      · intro other
        cases other with
        | map others =>
            rw [equals, equals, lengths, entries_within_behind left right others
              (Dict.find_related _ left right keys ih)]
        | _ => rfl

theorem equals {other others : Value} (first : Rearranged left right)
    (second : Rearranged other others) : left.equals other = right.equals others :=
  (first.indistinct.before other).trans (second.indistinct.behind right)

-- No list and no map has an order.
theorem compare {other others : Value} (first : Rearranged left right)
    (second : Rearranged other others) : left.compare? other = right.compare? others := by
  cases first with
  | same left =>
      cases second with
      | same => rfl
      | list => cases left <;> rfl
      | map => cases left <;> rfl
  | list => rfl
  | map => rfl

theorem found_same (found : Option Value) : Option.Rel Rearranged found found := by
  cases found with
  | none => exact .none
  | some value => exact .some (.same value)

theorem items_same (items : List Value) : List.Forall₂ Rearranged items items :=
  List.forall₂_same.mpr fun value _ => .same value

theorem member (rearranged : Rearranged left right) (name : String) :
    Option.Rel Rearranged (left.member name) (right.member name) := by
  cases rearranged with
  | same => exact found_same (left.member name)
  | list => exact .none
  | map left right _ keys entries => exact Dict.find_related Rearranged left right keys entries name

theorem item_at {left right : List Value} (lengths : left.length = right.length)
    (items : ∀ (index : Nat) (inLeft : index < left.length) (inRight : index < right.length),
      Rearranged left[index] right[index]) (position : Value) :
    Option.Rel Rearranged (itemAt left position) (itemAt right position) := by
  rw [itemAt, itemAt]
  cases position.asInt with
  | none => exact .none
  | some number =>
      by_cases negative : number < 0
      · simp only [negative, ↓reduceIte]
        exact .none
      · simp only [negative, ↓reduceIte]
        by_cases inside : number.toInt.toNat < left.length
        · rw [List.getElem?_eq_getElem inside, List.getElem?_eq_getElem (lengths ▸ inside)]
          exact .some (items _ inside _)
        · rw [List.getElem?_eq_none (Nat.le_of_not_lt inside),
            List.getElem?_eq_none (lengths ▸ Nat.le_of_not_lt inside)]
          exact .none

/-- An index into a value is used as a number, as a text or as a name only. -/
theorem index_place (base : Value) {left right : Value} (place : Rearranged left right) :
    base.atIndex left = base.atIndex right := by
  cases base with
  | list items => rw [atIndex, atIndex, itemAt, itemAt, place.asInt]
  | string text => rw [atIndex, atIndex, itemAt, itemAt, place.asInt]
  | map entries => rw [atIndex, atIndex, place.isNull, place.display]
  | record shape fields answers => cases place <;> rfl
  | _ => rfl

theorem atIndex {place places : Value} (base : Rearranged left right)
    (index : Rearranged place places) :
    Option.Rel Rearranged (left.atIndex place) (right.atIndex places) := by
  rw [index_place left index]
  cases base with
  | same => exact found_same (left.atIndex places)
  | list left right lengths items => exact item_at lengths items places
  | map left right _ keys entries =>
      rw [Value.atIndex, Value.atIndex]
      by_cases absent : places.isNull
      · simp only [absent, ↓reduceIte]
        exact .none
      · simp only [absent, Bool.false_eq_true, ↓reduceIte]
        exact Dict.find_related Rearranged left right keys entries places.display

theorem loopItems (rearranged : Rearranged left right) :
    Option.Rel (List.Forall₂ Rearranged) left.loopItems right.loopItems := by
  cases rearranged with
  | same =>
      cases left.loopItems with
      | none => exact .none
      | some items => exact .some (items_same items)
  | list left right lengths items => exact .some (List.forall₂_iff_get.mpr ⟨lengths, items⟩)
  | map left right distinct keys _ =>
      have sorted := Dict.ascending_keys left right distinct (keys.nodup_iff.mp distinct) keys
      rw [Value.loopItems, Value.loopItems, sorted]
      exact .some (items_same _)

end Rearranged

end MarkupTemplate.Value
