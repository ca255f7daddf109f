import MarkupTemplate.Proofs.Value.Parts
import MarkupTemplate.Value.Equality
import Mathlib.Data.List.Forall2
import Mathlib.Data.List.Perm.Subperm

/-!
The laws of equality. Two maps are compared from the left one only: it has as many entries as the
other, and each of them is found there. Since no key comes twice, the keys on both sides are then
the same but for their order. Main statement: equality is symmetric and transitive, and a value
equals itself exactly where no float within it is NaN.
-/

namespace MarkupTemplate.Value

theorem atomic_equals_iff (left right : Value) (atomic : left.Atomic) :
    left.equals right = true ↔ left = right := by
  cases left <;> first
    | exact atomic.elim
    | cases right <;> simp [equals]

theorem items_equal_iff (left right : List Value) :
    itemsEqual left right = true ↔ left.length = right.length ∧
      ∀ (index : Nat) (inLeft : index < left.length) (inRight : index < right.length),
        left[index].equals right[index] = true := by
  have pairs : itemsEqual left right = true ↔
      List.Forall₂ (fun one other => one.equals other = true) left right := by
    induction left generalizing right with
    | nil => cases right <;> simp [itemsEqual]
    | cons one rest ih => cases right <;> simp [itemsEqual, ih]
  exact pairs.trans List.forall₂_iff_get

theorem items_equal_self_iff (items : List Value) :
    itemsEqual items items = true ↔ ∀ item ∈ items, item.equals item = true := by
  rw [items_equal_iff, List.forall_mem_iff_getElem]
  exact ⟨fun same index inside => same.2 index inside inside,
    fun same => ⟨rfl, fun index inside _ => same index inside⟩⟩

/-- Two maps of one size where each entry of the left one is found in the right one. -/
structure EntriesEqual (left right : Dict Value) : Prop where
  lengths : left.length = right.length
  found : ∀ entry ∈ left, ∃ other, Dict.find entry.1 right = some other ∧
    entry.2.equals other = true

theorem map_equals_iff (left right : Dict Value) :
    (Value.map left).equals (.map right) = true ↔ EntriesEqual left right := by
  have within : entriesWithin left right = true ↔ ∀ entry ∈ left, ∃ other,
      Dict.find entry.1 right = some other ∧ entry.2.equals other = true := by
    simp [entries_within_all, Option.any_eq_true]
  rw [equals, Bool.and_eq_true, beq_iff_eq, within]
  exact ⟨fun same => ⟨same.1, same.2⟩, fun same => ⟨same.lengths, same.found⟩⟩

theorem record_equals_iff (shape otherShape : String) (left right answers others : Dict Value) :
    (Value.record shape left answers).equals (.record otherShape right others) = true ↔
      shape = otherShape ∧ EntriesEqual left right := by
  rw [equals, Bool.and_eq_true, beq_iff_eq, ← map_equals_iff, equals]

namespace EntriesEqual

variable {left right : Dict Value}

-- As many keys as on the right, all different and all found there: no key on the right is left out.
theorem keys (same : EntriesEqual left right) (distinct : Dict.Distinct left) :
    (Dict.keys left).Perm (Dict.keys right) := by
  have within : Dict.keys left ⊆ Dict.keys right := by
    intro key member
    obtain ⟨entry, inside, rfl⟩ := List.mem_map.mp member
    obtain ⟨other, found, _⟩ := same.found entry inside
    exact List.mem_map.mpr ⟨(entry.1, other), Dict.mem_of_find right entry.1 other found, rfl⟩
  have lengths : (Dict.keys right).length ≤ (Dict.keys left).length := by
    simp [Dict.keys, same.lengths]
  exact (List.subperm_of_subset distinct within).perm_of_length_le lengths

theorem symm (same : EntriesEqual left right) (distinct : Dict.Distinct left)
    (turned : ∀ entry ∈ left, ∀ other, entry.2.equals other = true → other.equals entry.2 = true) :
    EntriesEqual right left where
  lengths := same.lengths.symm
  found := by
    intro entry member
    have keys := same.keys distinct
    have placed : entry.1 ∈ Dict.keys left := keys.mem_iff.mpr (List.mem_map_of_mem member)
    obtain ⟨partner, inside, key⟩ := List.mem_map.mp placed
    obtain ⟨other, found, equal⟩ := same.found partner inside
    have only : Dict.find entry.1 right = some entry.2 :=
      Dict.find_of_mem right entry.1 entry.2 (keys.nodup_iff.mp distinct) member
    rw [key, only] at found
    cases found
    have back := Dict.find_of_mem left partner.1 partner.2 distinct inside
    exact ⟨partner.2, key ▸ back, turned partner inside entry.2 equal⟩

theorem trans {third : Dict Value} (first : EntriesEqual left right)
    (second : EntriesEqual right third)
    (onward : ∀ entry ∈ left, ∀ middle last, entry.2.equals middle = true →
      middle.equals last = true → entry.2.equals last = true) :
    EntriesEqual left third where
  lengths := first.lengths.trans second.lengths
  found := by
    intro entry member
    obtain ⟨middle, found, equal⟩ := first.found entry member
    have placed := Dict.mem_of_find right entry.1 middle found
    obtain ⟨last, later, next⟩ := second.found (entry.1, middle) placed
    exact ⟨last, later, onward entry member middle last equal next⟩

theorem self_iff (distinct : Dict.Distinct left) :
    EntriesEqual left left ↔ ∀ entry ∈ left, entry.2.equals entry.2 = true := by
  have own : ∀ entry ∈ left, Dict.find entry.1 left = some entry.2 := fun entry member =>
    Dict.find_of_mem left entry.1 entry.2 distinct member
  constructor
  · intro same entry member
    obtain ⟨other, found, equal⟩ := same.found entry member
    rw [own entry member] at found
    cases found
    exact equal
  · exact fun equal => ⟨rfl, fun entry member => ⟨entry.2, own entry member, equal entry member⟩⟩

end EntriesEqual

theorem equals_symm (left right : Value) (keyed : left.Keyed)
    (same : left.equals right = true) : right.equals left = true := by
  induction left using forall_parts generalizing right with
  | atomic value atomic =>
      cases (atomic_equals_iff value right atomic).mp same
      exact same
  | float number =>
      cases right with
      | float other => exact (Binary64.equals_comm other number).trans same
      | _ => cases same
  | list items ih =>
      cases right with
      | list others =>
          have inside := ((throughout_list_iff SingleKeys items).mp keyed).2
          obtain ⟨lengths, equal⟩ := (items_equal_iff items others).mp same
          refine (items_equal_iff others items).mpr ⟨lengths.symm, fun index behind before => ?_⟩
          have member := List.getElem_mem before
          exact ih _ member _ (inside _ member) (equal index before behind)
      | _ => cases same
  | map entries ih =>
      cases right with
      | map others =>
          obtain ⟨distinct, inside⟩ := (throughout_map_iff SingleKeys entries).mp keyed
          have entriesSame := (map_equals_iff entries others).mp same
          exact (map_equals_iff others entries).mpr
            (entriesSame.symm distinct fun entry member other => ih entry member other
              (inside entry member))
      | _ => cases same
  | record shape fields answers ih =>
      cases right with
      | record otherShape others otherAnswers =>
          obtain ⟨distinct, inside⟩ :=
            (throughout_record_iff SingleKeys shape fields answers).mp keyed
          obtain ⟨shapes, fieldsSame⟩ := (record_equals_iff _ _ _ _ _ _).mp same
          exact (record_equals_iff _ _ _ _ _ _).mpr
            ⟨shapes.symm, fieldsSame.symm distinct fun entry member other => ih entry member other
              (inside entry member)⟩
      | _ => cases same

theorem equals_trans (first second third : Value) (same : first.equals second = true)
    (next : second.equals third = true) : first.equals third = true := by
  induction first using forall_parts generalizing second third with
  | atomic value atomic =>
      cases (atomic_equals_iff value second atomic).mp same
      exact next
  | float number =>
      cases second with
      | float middle =>
          cases third with
          | float last => exact Binary64.equals_trans number middle last same next
          | _ => cases next
      | _ => cases same
  | list items ih =>
      cases second with
      | list middles =>
          cases third with
          | list others =>
              obtain ⟨lengths, equal⟩ := (items_equal_iff items middles).mp same
              obtain ⟨more, later⟩ := (items_equal_iff middles others).mp next
              refine (items_equal_iff items others).mpr
                ⟨lengths.trans more, fun index inside behind => ?_⟩
              have between : index < middles.length := lengths ▸ inside
              exact ih _ (List.getElem_mem inside) _ _ (equal index inside between)
                (later index between behind)
          | _ => cases next
      | _ => cases same
  | map entries ih =>
      cases second with
      | map middles =>
          cases third with
          | map others =>
              exact (map_equals_iff entries others).mpr
                (((map_equals_iff entries middles).mp same).trans
                  ((map_equals_iff middles others).mp next) ih)
          | _ => cases next
      | _ => cases same
  | record shape fields answers ih =>
      cases second with
      | record middleShape middles middleAnswers =>
          cases third with
          | record otherShape others otherAnswers =>
              obtain ⟨shapes, fieldsSame⟩ := (record_equals_iff _ _ _ _ _ _).mp same
              obtain ⟨moreShapes, fieldsNext⟩ := (record_equals_iff _ _ _ _ _ _).mp next
              exact (record_equals_iff _ _ _ _ _ _).mpr
                ⟨shapes.trans moreShapes, fieldsSame.trans fieldsNext ih⟩
          | _ => cases next
      | _ => cases same

/-- No NaN itself. -/
def NotNaN : Value → Prop
  | .float number => number.isNaN = false
  | _ => True

theorem equals_self_iff (value : Value) (keyed : value.Keyed) :
    value.equals value = true ↔ value.Throughout NotNaN := by
  induction value using forall_parts with
  | atomic value atomic =>
      have number : value.NotNaN := by cases value <;> first | exact True.intro | exact atomic.elim
      rw [atomic_equals_iff value value atomic, throughout_atomic_iff NotNaN value atomic]
      exact iff_of_true rfl number
  | float number =>
      rw [equals, Binary64.equals_self_iff, throughout_float_iff, NotNaN]
  | list items ih =>
      have inside := ((throughout_list_iff SingleKeys items).mp keyed).2
      rw [equals, items_equal_self_iff, throughout_list_iff]
      simp only [NotNaN, true_and]
      exact forall₂_congr fun item member => ih item member (inside item member)
  | map entries ih =>
      obtain ⟨distinct, inside⟩ := (throughout_map_iff SingleKeys entries).mp keyed
      rw [map_equals_iff, EntriesEqual.self_iff distinct, throughout_map_iff]
      simp only [NotNaN, true_and]
      exact forall₂_congr fun entry member => ih entry member (inside entry member)
  | record shape fields answers ih =>
      obtain ⟨distinct, inside⟩ := (throughout_record_iff SingleKeys shape fields answers).mp keyed
      rw [record_equals_iff, EntriesEqual.self_iff distinct, throughout_record_iff]
      simp only [NotNaN, true_and]
      exact forall₂_congr fun entry member => ih entry member (inside entry member)

/-- Equality is symmetric and transitive on all values, and a value equals itself exactly where it
holds no NaN, neither in a list or map nor in a field of a record. -/
theorem equality_partial_equivalence (first second third : Value) (keyed : first.Keyed) :
    (first.equals second = true → second.equals first = true) ∧
      (first.equals second = true → second.equals third = true → first.equals third = true) ∧
      (first.equals first = true ↔
        ∀ number, first.Contains (.float number) → number.isNaN = false) := by
  refine ⟨equals_symm first second keyed, equals_trans first second third, ?_⟩
  rw [equals_self_iff first keyed]
  constructor
  · exact fun real number inside => real (.float number) inside
  · intro real part inside
    cases part with
    | float number => exact real number inside
    | _ => trivial

/-- A record with a list that holds a map. -/
def sampleFrame (entries : Dict Value) : Value :=
  .record "Frame" [("parts", .list [.map entries, .null])] []

def sampleEntries : Dict Value := [("x", .float .zero), ("y", .string "x")]

/-- The same entries in another order, with the other zero. -/
def sampleMoved : Dict Value := [("y", .string "x"), ("x", .float (.negate .zero))]

theorem sample_keyed : (sampleFrame sampleEntries).Keyed := by
  have text : (Value.string "x").Throughout SingleKeys := keyed_atomic _ trivial
  have nothing : Value.null.Throughout SingleKeys := keyed_atomic _ trivial
  simp [sampleFrame, sampleEntries, Keyed, SingleKeys, Dict.Distinct, Dict.keys, text, nothing]

theorem equality_partial_equivalence_moved :
    (sampleFrame sampleEntries).Keyed ∧
      (sampleFrame sampleMoved).equals (sampleFrame sampleEntries) = true ∧
      (sampleFrame sampleEntries).equals (sampleFrame sampleEntries) = true ∧
      (∀ number, (sampleFrame sampleEntries).Contains (.float number) → number.isNaN = false) := by
  have ⟨symmetric, transitive, reflexive⟩ := equality_partial_equivalence
    (sampleFrame sampleEntries) (sampleFrame sampleMoved) (sampleFrame sampleEntries) sample_keyed
  have moved : (sampleFrame sampleEntries).equals (sampleFrame sampleMoved) = true := by decide
  have self := transitive moved (symmetric moved)
  exact ⟨sample_keyed, symmetric moved, self, reflexive.mp self⟩

end MarkupTemplate.Value
