import MarkupTemplate.Proofs.Selector.Meaning

/-!
What an element makes of the rows that it is tried against. Each pool holds the
remains of the rows whose first segment fits, sorted by the combinator that they
lead with; rows that start anywhere are handed down as well.
-/

namespace MarkupTemplate.Selector

/-- What an element leaves of a row that it fits. -/
def Remains (kind : String) (row tail : List Segment) : Prop :=
  ∃ head, row = head :: tail ∧ fits kind head = true

theorem advance_matched (tail : List Segment) (pools : Pools) :
    (pools.advance tail).matched = true ↔ pools.matched = true ∨ tail = [] := by
  cases tail with
  | nil => simp [Pools.advance]
  | cons next rest => cases way : next.combinator <;> simp [Pools.advance, way]

theorem advance_inner (tail row : List Segment) (pools : Pools) :
    row ∈ (pools.advance tail).inner ↔
      row ∈ pools.inner ∨
        row = tail ∧ (leads tail = some .descendant ∨ leads tail = some .child) := by
  cases tail with
  | nil => simp [Pools.advance, leads]
  | cons next rest => cases way : next.combinator <;> simp [Pools.advance, leads, way]

theorem advance_adjacent (tail row : List Segment) (pools : Pools) :
    row ∈ (pools.advance tail).adjacent ↔
      row ∈ pools.adjacent ∨ row = tail ∧ leads tail = some .adjacent := by
  cases tail with
  | nil => simp [Pools.advance, leads]
  | cons next rest => cases way : next.combinator <;> simp [Pools.advance, leads, way]

theorem advance_later (tail row : List Segment) (pools : Pools) :
    row ∈ (pools.advance tail).later ↔
      row ∈ pools.later ∨ row = tail ∧ leads tail = some .sibling := by
  cases tail with
  | nil => simp [Pools.advance, leads]
  | cons next rest => cases way : next.combinator <;> simp [Pools.advance, leads, way]

theorem remains_nil (kind : String) (tail : List Segment) : ¬ Remains kind [] tail := by
  rintro ⟨head, same, _⟩
  cases same

theorem remains_cons (kind : String) (head : Segment) (rest tail : List Segment) :
    Remains kind (head :: rest) tail ↔ tail = rest ∧ fits kind head = true := by
  constructor
  · rintro ⟨first, same, fitting⟩
    cases same
    exact ⟨rfl, fitting⟩
  · rintro ⟨rfl, fitting⟩
    exact ⟨head, rfl, fitting⟩

theorem starts_anywhere_cons (head : Segment) (rest : List Segment) :
    StartsAnywhere (head :: rest) ↔ head.combinator = .descendant := by
  simp [StartsAnywhere, leads]

theorem try_matched (kind : String) (pools : Pools) (row : List Segment) :
    (pools.tryRow kind row).matched = true ↔ pools.matched = true ∨ Remains kind row [] := by
  cases row with
  | nil => simp [Pools.tryRow, remains_nil]
  | cons head tail =>
      by_cases fitting : fits kind head = true <;> by_cases way : head.combinator = .descendant <;>
        simp [Pools.tryRow, remains_cons, advance_matched, fitting, way]

theorem try_inner (kind : String) (pools : Pools) (row tail : List Segment) :
    tail ∈ (pools.tryRow kind row).inner ↔
      tail ∈ pools.inner ∨
        (Remains kind row tail ∧ (leads tail = some .descendant ∨ leads tail = some .child) ∨
          tail = row ∧ StartsAnywhere row) := by
  cases row with
  | nil => simp [Pools.tryRow, remains_nil, StartsAnywhere, leads]
  | cons head rest =>
      by_cases fitting : fits kind head = true <;> by_cases way : head.combinator = .descendant <;>
        simp [Pools.tryRow, remains_cons, starts_anywhere_cons, advance_inner, fitting, way] <;>
        grind

theorem try_adjacent (kind : String) (pools : Pools) (row tail : List Segment) :
    tail ∈ (pools.tryRow kind row).adjacent ↔
      tail ∈ pools.adjacent ∨ (Remains kind row tail ∧ leads tail = some .adjacent) := by
  cases row with
  | nil => simp [Pools.tryRow, remains_nil]
  | cons head rest =>
      by_cases fitting : fits kind head = true <;> by_cases way : head.combinator = .descendant <;>
        simp [Pools.tryRow, remains_cons, advance_adjacent, fitting, way] <;> grind

theorem try_later (kind : String) (pools : Pools) (row tail : List Segment) :
    tail ∈ (pools.tryRow kind row).later ↔
      tail ∈ pools.later ∨ (Remains kind row tail ∧ leads tail = some .sibling) := by
  cases row with
  | nil => simp [Pools.tryRow, remains_nil]
  | cons head rest =>
      by_cases fitting : fits kind head = true <;> by_cases way : head.combinator = .descendant <;>
        simp [Pools.tryRow, remains_cons, advance_later, fitting, way] <;> grind

-- What trying one row adds to the pools, trying all rows adds for some of them.
theorem try_all_gains (kind : String) (gained : Pools → Prop) (gives : List Segment → Prop)
    (start : ¬ gained .empty)
    (step : ∀ pools row, gained (pools.tryRow kind row) ↔ gained pools ∨ gives row)
    (rows : List (List Segment)) :
    gained (Pools.tryAll kind rows) ↔ ∃ row ∈ rows, gives row := by
  have run : ∀ pools, gained (rows.foldl (Pools.tryRow kind) pools) ↔
      gained pools ∨ ∃ row ∈ rows, gives row := by
    induction rows with
    | nil => simp
    | cons row rest ih =>
        intro pools
        rw [List.foldl_cons, ih, step]
        simp [or_assoc]
  rw [Pools.tryAll, run]
  simp [start]

theorem all_matched (kind : String) (rows : List (List Segment)) :
    (Pools.tryAll kind rows).matched = true ↔ ∃ row ∈ rows, Remains kind row [] :=
  try_all_gains kind (·.matched = true) _ (by simp [Pools.empty]) (try_matched kind) rows

theorem all_inner (kind : String) (rows : List (List Segment)) (tail : List Segment) :
    tail ∈ (Pools.tryAll kind rows).inner ↔
      ∃ row ∈ rows,
        Remains kind row tail ∧ (leads tail = some .descendant ∨ leads tail = some .child) ∨
          tail = row ∧ StartsAnywhere row :=
  try_all_gains kind (tail ∈ ·.inner) _ (by simp [Pools.empty])
    (fun pools row => try_inner kind pools row tail) rows

theorem all_adjacent (kind : String) (rows : List (List Segment)) (tail : List Segment) :
    tail ∈ (Pools.tryAll kind rows).adjacent ↔
      ∃ row ∈ rows, Remains kind row tail ∧ leads tail = some .adjacent :=
  try_all_gains kind (tail ∈ ·.adjacent) _ (by simp [Pools.empty])
    (fun pools row => try_adjacent kind pools row tail) rows

theorem all_later (kind : String) (rows : List (List Segment)) (tail : List Segment) :
    tail ∈ (Pools.tryAll kind rows).later ↔
      ∃ row ∈ rows, Remains kind row tail ∧ leads tail = some .sibling :=
  try_all_gains kind (tail ∈ ·.later) _ (by simp [Pools.empty])
    (fun pools row => try_later kind pools row tail) rows

end MarkupTemplate.Selector
