import MarkupTemplate.Proofs.Rearrangement.Value
import MarkupTemplate.Proofs.Value.Equality

/-!
Values written as JSON and read again. An object holds its members in ascending order, so the
entries of every map come back sorted; nothing else changes, since integers and floats are told
apart and a map loses no key. Main statement: what is read again is the same value but for the order
of entries, and equal to it.
-/

namespace MarkupTemplate.Value

theorem items_of_json_map (items : List Json) : itemsOfJson items = items.map ofJson := by
  induction items with
  | nil => rfl
  | cons item rest ih => rw [itemsOfJson, ih, List.map_cons]

theorem members_of_json_map (members : List (String × Json)) :
    membersOfJson members = members.map fun entry => (entry.1, ofJson entry.2) := by
  induction members with
  | nil => rfl
  | cons entry rest ih => rw [membersOfJson, ih, List.map_cons]

/-- The value that is read from the JSON of a value. -/
def readAgain (value : Value) : Value := ofJson value.toJson

theorem list_read_again (items : List Value) :
    readAgain (.list items) = .list (items.map readAgain) := by
  rw [readAgain, toJson, ofJson, items_to_json_map, items_of_json_map, List.map_map]
  rfl

/-- The entries of a map come back in ascending order. -/
theorem map_read_again (entries : Dict Value) (distinct : Dict.Distinct entries) :
    readAgain (.map entries) =
      .map ((Dict.ascending entries).map fun entry => (entry.1, readAgain entry.2)) := by
  have written : membersOfJson (Dict.ascending (entriesToJson entries)) =
      (Dict.ascending entries).map fun entry => (entry.1, readAgain entry.2) := by
    rw [members_of_json_map, entries_to_json_map, Dict.ascending, orderedBy_map_values,
      List.map_map]
    rfl
  have sorted := (Dict.ascending_perm entries distinct).map Prod.fst
  have single : Dict.Distinct
      ((Dict.ascending entries).map fun entry => (entry.1, readAgain entry.2)) := by
    rw [Dict.Distinct, Dict.keys_map_values]
    exact sorted.nodup_iff.mpr distinct
  rw [readAgain, toJson, ofJson, written, Dict.ofList_distinct _ single]

/-- What JSON can hold: no handle of a record, and no float that is not finite. -/
def Representable : Value → Prop
  | .float number => number.isFinite = true
  | .record _ _ _ => False
  | _ => True

theorem read_again_rearranged (value : Value) (keyed : value.Keyed)
    (plain : value.Throughout Representable) : Rearranged value (readAgain value) := by
  induction value using forall_parts with
  | atomic value atomic => cases value <;> first | exact atomic.elim | exact .same _
  | float number =>
      have finite : number.isFinite = true := (throughout_float_iff Representable number).mp plain
      rw [readAgain, toJson, if_pos finite, ofJson]
      exact .same _
  | list items ih =>
      have single := ((throughout_list_iff SingleKeys items).mp keyed).2
      have inside := ((throughout_list_iff Representable items).mp plain).2
      rw [list_read_again]
      refine .list items _ (by rw [List.length_map]) fun index before _ => ?_
      have member := List.getElem_mem before
      rw [List.getElem_map]
      exact ih _ member (single _ member) (inside _ member)
  | map entries ih =>
      obtain ⟨distinct, single⟩ := (throughout_map_iff SingleKeys entries).mp keyed
      have inside := ((throughout_map_iff Representable entries).mp plain).2
      have sorted := Dict.ascending_perm entries distinct
      rw [map_read_again entries distinct]
      refine .map entries _ distinct ?keys fun key first second found again => ?values
      case keys =>
        rw [Dict.keys_map_values]
        exact (sorted.map Prod.fst).symm
      case values =>
        have member := Dict.mem_of_find entries key first found
        rw [Dict.find_map_values, ← Dict.find_of_perm entries _ distinct sorted.symm,
          found] at again
        cases again
        exact ih (key, first) member (single _ member) (inside _ member)
  | record shape fields answers =>
      exact ((throughout_record_iff Representable shape fields answers).mp plain).1.elim

theorem representable_not_nan (value : Value) (plain : value.Throughout Representable) :
    value.Throughout NotNaN := by
  intro part inside
  have holds := plain part inside
  cases part with
  | float number =>
      have finite : number.size < Binary64.infiniteSize := of_decide_eq_true holds
      exact decide_eq_false (Nat.lt_asymm finite)
  | _ => trivial

/-- A value without records and with finite floats only comes back from JSON but for the order of
entries: every item in its place, every entry under its key, and every leaf as it was. So it is
equal to what comes back, on either side. -/
theorem json_read_back (value : Value) (keyed : value.Keyed)
    (handles : ∀ shape fields answers, ¬value.Contains (.record shape fields answers))
    (finite : ∀ number, value.Contains (.float number) → number.isFinite = true) :
    Rearranged value (ofJson value.toJson) ∧ (ofJson value.toJson).equals value = true := by
  have plain : value.Throughout Representable := by
    intro part inside
    cases part with
    | float number => exact finite number inside
    | record shape fields answers => exact handles shape fields answers inside
    | _ => trivial
  have back := read_again_rearranged value keyed plain
  have self := (equals_self_iff value keyed).mpr (representable_not_nan value plain)
  exact ⟨back, (back.symm.equals (.same value)).trans self⟩

/-- Keys that are not in order, and one number of each kind. -/
def sampleData : Value :=
  .map [("size", .list [.int 7, .float (.ofInt 7)]), ("name", .string "x"), ("next", .map [])]

theorem sample_data_keyed : sampleData.Keyed := by
  have number : (Value.int 7).Throughout SingleKeys := keyed_atomic _ trivial
  have text : (Value.string "x").Throughout SingleKeys := keyed_atomic _ trivial
  simp [sampleData, Keyed, SingleKeys, Dict.Distinct, Dict.keys, number, text]

theorem sample_data_representable : sampleData.Throughout Representable := by
  have number := (throughout_atomic_iff Representable (.int 7) trivial).mpr trivial
  have text := (throughout_atomic_iff Representable (.string "x") trivial).mpr trivial
  have finite : (Binary64.ofInt 7).isFinite = true := by decide
  simp [sampleData, Representable, number, text, finite]

theorem json_read_back_data :
    sampleData.Keyed ∧
      (∀ shape fields answers, ¬sampleData.Contains (.record shape fields answers)) ∧
      (∀ number, sampleData.Contains (.float number) → number.isFinite = true) ∧
      Rearranged sampleData (ofJson sampleData.toJson) ∧
      (ofJson sampleData.toJson).equals sampleData = true := by
  have handles (shape : String) (fields answers : Dict Value) :
      ¬sampleData.Contains (.record shape fields answers) := sample_data_representable _
  have finite (number : Binary64) (inside : sampleData.Contains (.float number)) :
      number.isFinite = true := sample_data_representable _ inside
  exact ⟨sample_data_keyed, handles, finite,
    json_read_back sampleData sample_data_keyed handles finite⟩

end MarkupTemplate.Value
