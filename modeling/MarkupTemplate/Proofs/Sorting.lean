import Mathlib.Data.List.Induction
import Mathlib.Data.List.Nodup
import MarkupTemplate.Dict

/-!
Sorting entries by their keys. Entries with unequal keys keep out of each other's way, and of equal
keys the last stays. Main statements: entries that do not compete for a key are sorted in the same
way whatever their order, and which keys are left never depends on it.
-/

namespace MarkupTemplate

variable {κ α : Type} (order : κ → κ → Ordering)

theorem inserted_mem (key : κ) (value : α) (entries : List (κ × α)) :
    (key, value) ∈ insertOrdered order key value entries := by
  induction entries with
  | nil => exact List.mem_cons_self
  | cons first rest ih =>
      obtain ⟨present, held⟩ := first
      rw [insertOrdered]
      cases order key present with
      | lt | eq => exact List.mem_cons_self
      | gt => exact List.mem_cons_of_mem _ ih

theorem mem_beside_inserted (key : κ) (value : α) (entries : List (κ × α)) (entry : κ × α)
    (member : entry ∈ entries) (apart : order key entry.1 ≠ .eq) :
    entry ∈ insertOrdered order key value entries := by
  induction entries with
  | nil => cases member
  | cons first rest ih =>
      obtain ⟨present, held⟩ := first
      rw [insertOrdered]
      cases compared : order key present with
      | lt => exact List.mem_cons_of_mem _ member
      | eq =>
          rcases List.mem_cons.mp member with rfl | later
          · exact absurd compared apart
          · exact List.mem_cons_of_mem _ later
      | gt =>
          rcases List.mem_cons.mp member with rfl | later
          · exact List.mem_cons_self
          · exact List.mem_cons_of_mem _ (ih later)

theorem orderedBy_last (entries : List (κ × α)) (last : κ × α) :
    orderedBy order (entries ++ [last]) =
      insertOrdered order last.1 last.2 (orderedBy order entries) := by
  rw [orderedBy, List.foldl_append]
  rfl

theorem mem_of_mem_orderedBy (entries : List (κ × α)) (entry : κ × α)
    (member : entry ∈ orderedBy order entries) : entry ∈ entries := by
  induction entries using List.reverseRecOn with
  | nil => cases member
  | append_singleton entries last ih =>
      rw [orderedBy_last] at member
      rcases mem_insertOrdered order _ _ _ entry member with rfl | earlier
      · exact List.mem_append_right entries List.mem_cons_self
      · exact List.mem_append_left _ (ih earlier)

/-- Where no two entries compete for a key, all of them stay. -/
theorem mem_orderedBy_iff (entries : List (κ × α))
    (agree : ∀ first ∈ entries, ∀ second ∈ entries,
      order first.1 second.1 = .eq → first = second)
    (entry : κ × α) : entry ∈ orderedBy order entries ↔ entry ∈ entries := by
  refine ⟨mem_of_mem_orderedBy order entries entry, ?_⟩
  induction entries using List.reverseRecOn with
  | nil => exact fun member => member
  | append_singleton entries last ih =>
      intro member
      rw [orderedBy_last]
      rcases List.mem_append.mp member with earlier | final
      · by_cases same : order last.1 entry.1 = .eq
        · have here : last ∈ entries ++ [last] := List.mem_append_right entries List.mem_cons_self
          rw [← agree last here entry member same]
          exact inserted_mem order last.1 last.2 _
        · refine mem_beside_inserted order _ _ _ entry (ih ?_ earlier) same
          exact fun first left second right =>
            agree first (List.mem_append_left _ left) second (List.mem_append_left _ right)
      · rw [List.mem_singleton.mp final]
        exact inserted_mem order last.1 last.2 _

/-- Two orders that agree on the keys sort alike. -/
theorem insertOrdered_congr (other : κ → κ → Ordering) (key : κ) (value : α)
    (entries : List (κ × α)) (same : ∀ entry ∈ entries, order key entry.1 = other key entry.1) :
    insertOrdered order key value entries = insertOrdered other key value entries := by
  induction entries with
  | nil => rfl
  | cons first rest ih =>
      obtain ⟨present, held⟩ := first
      have here := same (present, held) List.mem_cons_self
      have later := ih fun entry inside => same entry (List.mem_cons_of_mem _ inside)
      rw [insertOrdered, insertOrdered, here, later]

theorem orderedBy_congr (other : κ → κ → Ordering) (entries : List (κ × α))
    (same : ∀ first ∈ entries, ∀ second ∈ entries,
      order first.1 second.1 = other first.1 second.1) :
    orderedBy order entries = orderedBy other entries := by
  induction entries using List.reverseRecOn with
  | nil => rfl
  | append_singleton entries last ih =>
      have earlier := ih fun first left second right =>
        same first (List.mem_append_left _ left) second (List.mem_append_left _ right)
      rw [orderedBy_last, orderedBy_last, ← earlier]
      refine insertOrdered_congr order other last.1 last.2 _ fun entry inside => ?_
      exact same last (List.mem_append_right entries List.mem_cons_self) entry
        (List.mem_append_left _ (mem_of_mem_orderedBy order entries entry inside))

theorem ascending_keys_nodup [Std.OrientedCmp order] (entries : List (κ × α))
    (ascending : Ascending order entries) : (entries.map Prod.fst).Nodup := by
  refine List.pairwise_map.mpr (ascending.imp ?_)
  rintro ⟨key, _⟩ ⟨later, _⟩ less (rfl : key = later)
  have self : order key key = .eq := Std.ReflCmp.compare_self
  rw [self] at less
  cases less

theorem ascending_ext [Std.OrientedCmp order] (left right : List (κ × α))
    (leftSorted : Ascending order left) (rightSorted : Ascending order right)
    (members : ∀ entry, entry ∈ left ↔ entry ∈ right) : left = right := by
  have leftNodup := (ascending_keys_nodup order left leftSorted).of_map
  have rightNodup := (ascending_keys_nodup order right rightSorted).of_map
  refine ascending_unique order left right leftSorted rightSorted ?_
  exact (List.perm_ext_iff_of_nodup leftNodup rightNodup).mpr members

theorem orderedBy_same_members [Std.TransCmp order] (left right : List (κ × α))
    (agree : ∀ first ∈ left, ∀ second ∈ left, order first.1 second.1 = .eq → first = second)
    (members : ∀ entry, entry ∈ left ↔ entry ∈ right) :
    orderedBy order left = orderedBy order right := by
  have agreeRight : ∀ first ∈ right, ∀ second ∈ right,
      order first.1 second.1 = .eq → first = second := fun first here second there =>
    agree first ((members first).mpr here) second ((members second).mpr there)
  refine ascending_ext order _ _ (orderedBy_ascending order left) (orderedBy_ascending order right)
    fun entry => ?_
  rw [mem_orderedBy_iff order left agree, mem_orderedBy_iff order right agreeRight]
  exact members entry

/-- Which keys are left does not depend on the values. -/
theorem orderedBy_same_keys [Std.TransCmp order] (left right : List (κ × α))
    (lawful : ∀ first ∈ left, ∀ second ∈ left, order first.1 second.1 = .eq → first.1 = second.1)
    (members : ∀ entry, entry ∈ left ↔ entry ∈ right) :
    (orderedBy order left).map Prod.fst = (orderedBy order right).map Prod.fst := by
  have bare (entries : List (κ × α)) : (orderedBy order entries).map Prod.fst =
      (orderedBy order (entries.map fun entry => (entry.1, ()))).map Prod.fst := by
    rw [orderedBy_map_values order (fun _ => ()) entries, List.map_map]
    rfl
  rw [bare left, bare right]
  refine congrArg (List.map Prod.fst) (orderedBy_same_members order _ _ ?_ ?_)
  · intro first here second there same
    obtain ⟨one, inside, rfl⟩ := List.mem_map.mp here
    obtain ⟨two, within, rfl⟩ := List.mem_map.mp there
    exact Prod.ext (lawful one inside two within same) rfl
  · simp only [List.mem_map, members, implies_true]

end MarkupTemplate
