/-!
Rows of steps that may fail. The first step that fails ends the row. Main statements: a row that
succeeds has the result of every step at its place, and one that fails has the error of some step;
whether a row succeeds does not depend on the order of its steps.
-/

namespace MarkupTemplate

variable {α β ε : Type}

/-- The results of a row of steps, or the error of the first one that fails. -/
def inOrder {ε α : Type} : List (Except ε α) → Except ε (List α)
  | [] => .ok []
  | first :: rest => do
      let value ← first
      let values ← inOrder rest
      return value :: values

theorem bind_ok {first : Except ε α} {next : α → Except ε β} {result : β}
    (read : (first >>= next) = .ok result) :
    ∃ value, first = .ok value ∧ next value = .ok result := by
  cases first with
  | error error => cases read
  | ok value => exact ⟨value, rfl, read⟩

theorem bind_accepted_iff (first : Except ε α) (next : α → Except ε β) :
    (∃ result, (first >>= next) = .ok result) ↔
      ∃ value, first = .ok value ∧ ∃ result, next value = .ok result := by
  cases first with
  | error error => exact iff_of_false nofun nofun
  | ok value =>
      constructor
      · exact fun accepted => ⟨value, rfl, accepted⟩
      · rintro ⟨_, ⟨⟩, accepted⟩
        exact accepted

theorem map_error_ok {δ : Type} (change : ε → δ) (value : α) :
    (Except.ok value).mapError change = .ok value := rfl

theorem map_error_error {δ : Type} (change : ε → δ) (error : ε) :
    (Except.error error : Except ε α).mapError change = .error (change error) := rfl

theorem in_order_ok_iff (steps : List (Except ε β)) (values : List β) :
    inOrder steps = .ok values ↔ steps = values.map .ok := by
  induction steps generalizing values with
  | nil =>
      cases values with
      | nil => exact iff_of_true rfl rfl
      | cons value rest => exact iff_of_false nofun nofun
  | cons step rest ih =>
      constructor
      · intro ok
        obtain ⟨value, here, ok⟩ := bind_ok ok
        obtain ⟨later, others, ok⟩ := bind_ok ok
        cases ok
        rw [here, (ih later).mp others, List.map_cons]
      · cases values with
        | nil => exact nofun
        | cons value later =>
            intro same
            obtain ⟨rfl, others⟩ := List.cons.inj same
            rw [inOrder, (ih later).mpr others]
            rfl

theorem in_order_each (read : α → Except ε β) (items : List α) (values : List β)
    (ok : inOrder (items.map read) = .ok values) :
    ∀ item ∈ items, ∃ value, read item = .ok value := by
  intro item member
  have result : read item ∈ items.map read := List.mem_map_of_mem member
  rw [(in_order_ok_iff _ values).mp ok] at result
  obtain ⟨value, _, same⟩ := List.mem_map.mp result
  exact ⟨value, same.symm⟩

theorem in_order_ok (read : α → Except ε β) (items : List α) (values : List β)
    (ok : inOrder (items.map read) = .ok values) :
    ∀ (index : Nat) (item : α), items[index]? = some item →
      ∃ value, values[index]? = some value ∧ read item = .ok value := by
  intro index item placed
  have results := congrArg (·[index]?) ((in_order_ok_iff _ values).mp ok)
  simp only [List.getElem?_map, placed, Option.map_some] at results
  obtain ⟨value, here, same⟩ := Option.map_eq_some_iff.mp results.symm
  exact ⟨value, here, same.symm⟩

theorem in_order_error (read : α → Except ε β) (items : List α) (error : ε)
    (failed : inOrder (items.map read) = .error error) :
    ∃ item ∈ items, read item = .error error := by
  induction items with
  | nil => cases failed
  | cons first rest ih =>
      rw [List.map_cons, inOrder] at failed
      cases here : read first with
      | error other =>
          rw [here] at failed
          cases failed
          exact ⟨first, List.mem_cons_self, here⟩
      | ok value =>
          cases others : inOrder (rest.map read) with
          | error other =>
              rw [here, others] at failed
              cases failed
              obtain ⟨item, member, same⟩ := ih others
              exact ⟨item, List.mem_cons_of_mem first member, same⟩
          | ok later => rw [here, others] at failed; cases failed

theorem in_order_last (read : α → Except ε β) (items : List α) (last : α) (values : List β)
    (value : β) (ok : inOrder ((items ++ [last]).map read) = .ok values)
    (here : read last = .ok value) :
    ∃ earlier, values = earlier ++ [value] := by
  have results := (in_order_ok_iff _ values).mp ok
  rw [List.map_append, eq_comm, List.map_eq_append_iff] at results
  obtain ⟨earlier, final, rfl, _, only⟩ := results
  rw [List.map_singleton, here, List.map_eq_singleton_iff] at only
  obtain ⟨_, rfl, ⟨⟩⟩ := only
  exact ⟨earlier, rfl⟩

theorem in_order_mem_iff (read : α → Except ε β) (items : List α) (values : List β)
    (ok : inOrder (items.map read) = .ok values) (value : β) :
    value ∈ values ↔ ∃ item ∈ items, read item = .ok value := by
  have results := (in_order_ok_iff _ values).mp ok
  rw [← List.mem_map, results, List.mem_map]
  simp

/-- In another order the steps succeed as well, with the same results. -/
theorem in_order_perm (read : α → Except ε β) (items others : List α) (perm : items.Perm others)
    (values : List β) (ok : inOrder (items.map read) = .ok values) :
    ∃ swapped, inOrder (others.map read) = .ok swapped ∧
      ∀ value, value ∈ values ↔ value ∈ swapped := by
  cases run : inOrder (others.map read) with
  | error error =>
      obtain ⟨item, member, failed⟩ := in_order_error read others error run
      obtain ⟨value, result⟩ := in_order_each read items values ok item (perm.mem_iff.mpr member)
      rw [failed] at result
      cases result
  | ok swapped =>
      refine ⟨swapped, rfl, fun value => ?_⟩
      rw [in_order_mem_iff read items values ok, in_order_mem_iff read others swapped run]
      simp only [perm.mem_iff]

end MarkupTemplate
