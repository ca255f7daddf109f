import MarkupTemplate.Proofs.Selector.Pools

/-!
The walk against the meaning. A row in a pool waits for its first segment. The
invariant says where that segment may still fit: at a sibling from here on or at
the next one only, and below these where the row starts anywhere. Every element
takes the rows that reach it apart without losing a run or adding one.
-/

namespace MarkupTemplate.Selector

/-- Where a row that is tried against a sibling may start: there, or anywhere below. -/
def Opens (row : List Segment) (sibling start : List Nat) : Prop :=
  start = sibling ∨ (StartsAnywhere row ∧ ∃ below, below ≠ [] ∧ start = sibling ++ below)

/-- The row, tried against a sibling, leads to the target. -/
def Reaches (source : List Element) (row : List Segment) (sibling target : List Nat) : Prop :=
  ∃ start, Opens row sibling start ∧ RunsTo source row start target

theorem fits_iff (source : List Element) (place : List Nat) (element : Element)
    (segment : Segment) (here : elementAt source place = some element) :
    Fits source segment place ↔ fits element.kind segment = true := by
  simp [Fits, fits, here, or_comm]

theorem runs_iff (source : List Element) (row : List Segment) (place : List Nat)
    (element : Element) (target : List Nat) (here : elementAt source place = some element) :
    RunsTo source row place target ↔
      (Remains element.kind row [] ∧ target = place) ∨
      ∃ tail combinator, Remains element.kind row tail ∧ leads tail = some combinator ∧
        ∃ onward, Related combinator place onward ∧ RunsTo source tail onward target := by
  cases row with
  | nil => simp [RunsTo, remains_nil]
  | cons head rest =>
      cases rest with
      | nil => simp [RunsTo, remains_cons, fits_iff source place element head here, leads]
      | cons next rest =>
          have first := fits_iff source place element head here
          have left := remains_cons element.kind head (next :: rest)
          constructor
          · rintro ⟨fitting, onward⟩
            exact Or.inr ⟨next :: rest, next.combinator, (left _).mpr ⟨rfl, first.mp fitting⟩, rfl,
              onward⟩
          · rintro (⟨remains, _⟩ | ⟨tail, combinator, remains, leading, onward⟩)
            · exact (List.cons_ne_nil next rest ((left []).mp remains).1.symm).elim
            · obtain ⟨rfl, fitting⟩ := (left tail).mp remains
              obtain rfl : next.combinator = combinator := by simpa [leads] using leading
              exact ⟨first.mpr fitting, onward⟩

-- A row that opens everywhere below a place opens at some child of it.
theorem below_iff (source : List Element) (row : List Segment) (place target : List Nat)
    (anywhere : StartsAnywhere row) :
    (∃ onward, Related .descendant place onward ∧ RunsTo source row onward target) ↔
      ∃ offset, Reaches source row (place ++ [offset]) target := by
  constructor
  · rintro ⟨_, ⟨below, inside, rfl⟩, run⟩
    cases below with
    | nil => exact (inside rfl).elim
    | cons offset deeper =>
        refine ⟨offset, place ++ offset :: deeper, ?_, run⟩
        cases deeper with
        | nil => exact Or.inl rfl
        | cons next deeper =>
            exact Or.inr ⟨anywhere, next :: deeper, List.cons_ne_nil next deeper, by simp⟩
  · rintro ⟨offset, start, rfl | ⟨_, below, _, rfl⟩, run⟩
    · exact ⟨place ++ [offset], ⟨[offset], List.cons_ne_nil offset [], rfl⟩, run⟩
    · exact ⟨place ++ [offset] ++ below, ⟨offset :: below, List.cons_ne_nil offset below, by simp⟩,
        run⟩

theorem reaches_fixed (source : List Element) (row : List Segment) (place target : List Nat)
    (fixed : ¬ StartsAnywhere row) :
    Reaches source row place target ↔ RunsTo source row place target := by
  constructor
  · rintro ⟨_, rfl | ⟨anywhere, _⟩, run⟩
    · exact run
    · exact (fixed anywhere).elim
  · exact fun run => ⟨place, Or.inl rfl, run⟩

theorem not_anywhere (row : List Segment) (combinator : Combinator)
    (leading : leads row = some combinator) (other : combinator ≠ .descendant) :
    ¬ StartsAnywhere row := by
  intro anywhere
  rw [StartsAnywhere, leading, Option.some.injEq] at anywhere
  exact other anywhere

theorem child_iff (source : List Element) (row : List Segment) (place target : List Nat)
    (leading : leads row = some .child) :
    (∃ onward, Related .child place onward ∧ RunsTo source row onward target) ↔
      ∃ offset, Reaches source row (place ++ [offset]) target := by
  have fixed := not_anywhere row .child leading (by decide)
  simp only [reaches_fixed source row _ target fixed, Related]
  constructor
  · rintro ⟨_, ⟨offset, rfl⟩, run⟩
    exact ⟨offset, run⟩
  · rintro ⟨offset, run⟩
    exact ⟨_, ⟨offset, rfl⟩, run⟩

theorem adjacent_iff (source : List Element) (row : List Segment) (outer : List Nat)
    (position : Nat) (target : List Nat) (leading : leads row = some .adjacent) :
    (∃ onward, Related .adjacent (outer ++ [position]) onward ∧ RunsTo source row onward target) ↔
      Reaches source row (outer ++ [position + 1]) target := by
  have fixed := not_anywhere row .adjacent leading (by decide)
  simp only [reaches_fixed source row _ target fixed, Related]
  constructor
  · rintro ⟨_, ⟨around, place, same, rfl⟩, run⟩
    obtain ⟨rfl, rfl⟩ : outer = around ∧ position = place := by simpa using same
    exact run
  · exact fun run => ⟨_, ⟨outer, position, rfl, rfl⟩, run⟩

theorem sibling_iff (source : List Element) (row : List Segment) (outer : List Nat)
    (position : Nat) (target : List Nat) (leading : leads row = some .sibling) :
    (∃ onward, Related .sibling (outer ++ [position]) onward ∧ RunsTo source row onward target) ↔
      ∃ offset, Reaches source row (outer ++ [position + 1 + offset]) target := by
  have fixed := not_anywhere row .sibling leading (by decide)
  simp only [reaches_fixed source row _ target fixed, Related]
  constructor
  · rintro ⟨_, ⟨around, earlier, later, order, same, rfl⟩, run⟩
    obtain ⟨rfl, rfl⟩ : outer = around ∧ position = earlier := by simpa using same
    obtain ⟨offset, rfl⟩ := Nat.exists_eq_add_of_le order
    exact ⟨offset, run⟩
  · rintro ⟨offset, run⟩
    exact ⟨_, ⟨outer, position, position + 1 + offset, by omega, rfl, rfl⟩, run⟩

-- The element at a place reaches a target with a row, or hands what remains of the row on to
-- where it may go on from there.
theorem reaches_iff (source : List Element) (row : List Segment) (outer : List Nat)
    (position : Nat) (element : Element) (target : List Nat)
    (here : elementAt source (outer ++ [position]) = some element) :
    Reaches source row (outer ++ [position]) target ↔
      (Remains element.kind row [] ∧ target = outer ++ [position]) ∨
      (∃ tail, (Remains element.kind row tail ∧
          (leads tail = some .descendant ∨ leads tail = some .child) ∨
          tail = row ∧ StartsAnywhere row) ∧
        ∃ offset, Reaches source tail (outer ++ [position] ++ [offset]) target) ∨
      (∃ tail, (Remains element.kind row tail ∧ leads tail = some .adjacent) ∧
        Reaches source tail (outer ++ [position + 1]) target) ∨
      (∃ tail, (Remains element.kind row tail ∧ leads tail = some .sibling) ∧
        ∃ offset, Reaches source tail (outer ++ [position + 1 + offset]) target) := by
  constructor
  · rintro ⟨start, rfl | ⟨anywhere, inside⟩, run⟩
    · rcases (runs_iff source row _ element target here).mp run with
        finished | ⟨tail, combinator, remains, leading, onward⟩
      · exact Or.inl finished
      · cases combinator with
        | descendant =>
            exact Or.inr (Or.inl ⟨tail, Or.inl ⟨remains, Or.inl leading⟩,
              (below_iff source tail _ target leading).mp onward⟩)
        | child =>
            exact Or.inr (Or.inl ⟨tail, Or.inl ⟨remains, Or.inr leading⟩,
              (child_iff source tail _ target leading).mp onward⟩)
        | adjacent =>
            exact Or.inr (Or.inr (Or.inl ⟨tail, ⟨remains, leading⟩,
              (adjacent_iff source tail outer position target leading).mp onward⟩))
        | sibling =>
            exact Or.inr (Or.inr (Or.inr ⟨tail, ⟨remains, leading⟩,
              (sibling_iff source tail outer position target leading).mp onward⟩))
    · exact Or.inr (Or.inl ⟨row, Or.inr ⟨rfl, anywhere⟩,
        (below_iff source row _ target anywhere).mp ⟨start, inside, run⟩⟩)
  · have onward := runs_iff source row _ element target here
    rintro (finished | ⟨tail, ⟨remains, leading | leading⟩ | ⟨rfl, anywhere⟩, reached⟩ |
      ⟨tail, ⟨remains, leading⟩, reached⟩ | ⟨tail, ⟨remains, leading⟩, reached⟩)
    · exact ⟨_, Or.inl rfl, onward.mpr (Or.inl finished)⟩
    · exact ⟨_, Or.inl rfl, onward.mpr (Or.inr ⟨tail, _, remains, leading,
        (below_iff source tail _ target leading).mpr reached⟩)⟩
    · exact ⟨_, Or.inl rfl, onward.mpr (Or.inr ⟨tail, _, remains, leading,
        (child_iff source tail _ target leading).mpr reached⟩)⟩
    · obtain ⟨start, inside, run⟩ := (below_iff source tail _ target anywhere).mpr reached
      exact ⟨start, Or.inr ⟨anywhere, inside⟩, run⟩
    · exact ⟨_, Or.inl rfl, onward.mpr (Or.inr ⟨tail, _, remains, leading,
        (adjacent_iff source tail outer position target leading).mpr reached⟩)⟩
    · exact ⟨_, Or.inl rfl, onward.mpr (Or.inr ⟨tail, _, remains, leading,
        (sibling_iff source tail outer position target leading).mpr reached⟩)⟩

/-- The siblings from a position on stand in the source under the given place. -/
def Placed (source : List Element) (outer : List Nat) (position : Nat)
    (siblings : List Element) : Prop :=
  ∀ offset below, elementAt source (outer ++ (position + offset) :: below) =
    elementAt siblings (offset :: below)

theorem placed_head (source : List Element) (outer : List Nat) (position : Nat)
    (element : Element) (rest : List Element)
    (placed : Placed source outer position (element :: rest)) :
    elementAt source (outer ++ [position]) = some element := by
  simpa [element_at_head] using placed 0 []

theorem placed_inside (source : List Element) (outer : List Nat) (position : Nat)
    (element : Element) (rest : List Element)
    (placed : Placed source outer position (element :: rest)) :
    Placed source (outer ++ [position]) 0 element.children := by
  intro offset below
  simpa [element_at_head] using placed 0 (offset :: below)

theorem placed_rest (source : List Element) (outer : List Nat) (position : Nat)
    (element : Element) (rest : List Element)
    (placed : Placed source outer position (element :: rest)) :
    Placed source outer (position + 1) rest := by
  intro offset below
  have later := placed (offset + 1) below
  rw [element_at_later] at later
  rw [← later, Nat.add_assoc, Nat.add_comm 1 offset]

/-- A target that waiting rows reach from the siblings of a place. -/
def Awaited (source : List Element) (outer : List Nat) (position : Nat)
    (rows adjacent : List (List Segment)) (target : List Nat) : Prop :=
  (∃ row ∈ rows, ∃ offset, Reaches source row (outer ++ [position + offset]) target) ∨
    ∃ row ∈ adjacent, Reaches source row (outer ++ [position]) target

theorem awaited_here (source : List Element) (outer : List Nat) (position : Nat)
    (rows adjacent : List (List Segment)) (target : List Nat) :
    Awaited source outer position rows adjacent target ↔
      (∃ row ∈ rows ++ adjacent, Reaches source row (outer ++ [position]) target) ∨
        ∃ row ∈ rows, ∃ offset, Reaches source row (outer ++ [position + 1 + offset]) target := by
  constructor
  · rintro (⟨row, member, offset, reached⟩ | ⟨row, member, reached⟩)
    · cases offset with
      | zero => exact Or.inl ⟨row, List.mem_append_left adjacent member, reached⟩
      | succ offset =>
          rw [Nat.add_comm offset 1, ← Nat.add_assoc] at reached
          exact Or.inr ⟨row, member, offset, reached⟩
    · exact Or.inl ⟨row, List.mem_append_right rows member, reached⟩
  · rintro (⟨row, member, reached⟩ | ⟨row, member, offset, reached⟩)
    · rcases List.mem_append.mp member with waiting | next
      · exact Or.inl ⟨row, waiting, 0, reached⟩
      · exact Or.inr ⟨row, next, reached⟩
    · rw [Nat.add_assoc] at reached
      exact Or.inl ⟨row, member, 1 + offset, reached⟩

-- One step of the walk: what waits at an element is matched there, waits inside of it, or waits
-- at the siblings behind it.
theorem awaited_step (source : List Element) (outer : List Nat) (position : Nat)
    (rows adjacent : List (List Segment)) (element : Element) (target : List Nat)
    (here : elementAt source (outer ++ [position]) = some element) (pools : Pools)
    (tried : pools = Pools.tryAll element.kind (rows ++ adjacent)) :
    Awaited source outer position rows adjacent target ↔
      (pools.matched = true ∧ target = outer ++ [position]) ∨
      Awaited source (outer ++ [position]) 0 pools.inner [] target ∨
      Awaited source outer (position + 1) (rows ++ pools.later) pools.adjacent target := by
  have step := fun row => reaches_iff source row outer position element target here
  subst tried
  rw [awaited_here]
  constructor
  · rintro (⟨row, member, reached⟩ | ⟨row, member, offset, reached⟩)
    · rcases (step row).mp reached with
        ⟨remains, rfl⟩ | ⟨tail, given, offset, onward⟩ | ⟨tail, given, onward⟩ |
        ⟨tail, given, offset, onward⟩
      · exact Or.inl ⟨(all_matched _ _).mpr ⟨row, member, remains⟩, rfl⟩
      · refine Or.inr (Or.inl (Or.inl ⟨tail, (all_inner _ _ tail).mpr ⟨row, member, given⟩, ?_⟩))
        exact ⟨offset, by rwa [Nat.zero_add]⟩
      · exact Or.inr (Or.inr (Or.inr
          ⟨tail, (all_adjacent _ _ tail).mpr ⟨row, member, given⟩, onward⟩))
      · have later := (all_later _ _ tail).mpr ⟨row, member, given⟩
        exact Or.inr (Or.inr (Or.inl ⟨tail, List.mem_append_right rows later, offset, onward⟩))
    · exact Or.inr (Or.inr (Or.inl ⟨row, List.mem_append_left _ member, offset, reached⟩))
  · rintro (⟨matched, rfl⟩ | (⟨tail, member, offset, onward⟩ | ⟨_, absent, _⟩) |
      (⟨tail, member, offset, onward⟩ | ⟨tail, member, onward⟩))
    · obtain ⟨row, member, remains⟩ := (all_matched _ _).mp matched
      exact Or.inl ⟨row, member, (step row).mpr (Or.inl ⟨remains, rfl⟩)⟩
    · obtain ⟨row, member, given⟩ := (all_inner _ _ tail).mp member
      rw [Nat.zero_add] at onward
      exact Or.inl ⟨row, member, (step row).mpr (Or.inr (Or.inl ⟨tail, given, offset, onward⟩))⟩
    · exact (List.not_mem_nil absent).elim
    · rcases List.mem_append.mp member with waiting | later
      · exact Or.inr ⟨tail, waiting, offset, onward⟩
      · obtain ⟨row, member, given⟩ := (all_later _ _ tail).mp later
        exact Or.inl ⟨row, member,
          (step row).mpr (Or.inr (Or.inr (Or.inr ⟨tail, given, offset, onward⟩)))⟩
    · obtain ⟨row, member, given⟩ := (all_adjacent _ _ tail).mp member
      exact Or.inl ⟨row, member, (step row).mpr (Or.inr (Or.inr (Or.inl ⟨tail, given, onward⟩)))⟩

theorem awaited_nowhere (source : List Element) (outer : List Nat) (position : Nat)
    (rows adjacent : List (List Segment)) (target : List Nat)
    (placed : Placed source outer position []) :
    ¬ Awaited source outer position rows adjacent target := by
  have unreached : ∀ row offset, ¬ Reaches source row (outer ++ [position + offset]) target := by
    rintro row offset ⟨start, opened, run⟩
    cases row with
    | nil => exact run
    | cons head rest =>
        obtain ⟨element, found, _⟩ := runs_fits source head rest start target run
        have absent := fun below => (placed offset below).trans (element_at_none offset below)
        rcases opened with rfl | ⟨_, below, _, rfl⟩
        · rw [absent []] at found
          cases found
        · rw [List.append_assoc, List.singleton_append, absent below] at found
          cases found
  rintro (⟨row, _, offset, reached⟩ | ⟨row, _, reached⟩)
  · exact unreached row offset reached
  · exact unreached row 0 reached

mutual

theorem among_awaited (source : List Element) (outer : List Nat) (position : Nat)
    (rows adjacent : List (List Segment)) (target : List Nat) :
    (siblings : List Element) → Placed source outer position siblings →
      (target ∈ (matchesAmong outer position rows adjacent siblings).map Match.path ↔
        Awaited source outer position rows adjacent target)
  | [], placed => by
      simp [matchesAmong, awaited_nowhere source outer position rows adjacent target placed]
  | element :: rest, placed => by
      have here := placed_head source outer position element rest placed
      have step := awaited_step source outer position rows adjacent element target here _ rfl
      have inside := inside_awaited source (outer ++ [position])
        (Pools.tryAll element.kind (rows ++ adjacent)).inner target element
        (placed_inside source outer position element rest placed)
      have behind := among_awaited source outer (position + 1)
        (rows ++ (Pools.tryAll element.kind (rows ++ adjacent)).later)
        (Pools.tryAll element.kind (rows ++ adjacent)).adjacent target rest
        (placed_rest source outer position element rest placed)
      rw [step, ← inside, ← behind, matchesAmong]
      simp only [List.map_append, List.mem_append, or_assoc]
      by_cases matched : (Pools.tryAll element.kind (rows ++ adjacent)).matched = true <;>
        simp [matched]

theorem inside_awaited (source : List Element) (place : List Nat) (rows : List (List Segment))
    (target : List Nat) :
    (element : Element) → Placed source place 0 element.children →
      (target ∈ (matchesInside place rows element).map Match.path ↔
        Awaited source place 0 rows [] target)
  | ⟨_, _, children⟩, placed => by
      rw [matchesInside]
      exact among_awaited source place 0 rows [] target children placed

end

mutual

theorem among_places (outer : List Nat) (position : Nat) (rows adjacent : List (List Segment)) :
    (siblings : List Element) →
      ∀ found ∈ matchesAmong outer position rows adjacent siblings,
        ∃ offset below, found.path = outer ++ (position + offset) :: below ∧
          elementAt siblings (offset :: below) = some found.element
  | [], found, member => by
      rw [matchesAmong] at member
      exact (List.not_mem_nil member).elim
  | element :: rest, found, member => by
      simp only [matchesAmong, List.mem_append] at member
      rcases member with (here | inside) | behind
      · refine ⟨0, [], ?_⟩
        split at here
        · simp_all [element_at_head]
        · exact (List.not_mem_nil here).elim
      · obtain ⟨offset, below, same, stands⟩ := inside_places _ _ element found inside
        refine ⟨0, offset :: below, ?_, ?_⟩
        · simpa using same
        · simpa [element_at_head] using stands
      · obtain ⟨offset, below, same, stands⟩ := among_places _ _ _ _ rest found behind
        refine ⟨offset + 1, below, ?_, ?_⟩
        · rw [same, Nat.add_assoc, Nat.add_comm 1 offset]
        · rw [element_at_later, stands]

theorem inside_places (place : List Nat) (rows : List (List Segment)) :
    (element : Element) →
      ∀ found ∈ matchesInside place rows element,
        ∃ offset below, found.path = place ++ offset :: below ∧
          elementAt element.children (offset :: below) = some found.element
  | ⟨_, _, children⟩, found, member => by
      rw [matchesInside] at member
      simpa using among_places place 0 rows [] children found member

end

/-- Places are compared at the first position where they differ, and what is inside of an element
comes behind it. -/
def Precedes (left right : Match) : Prop := left.path < right.path

theorem position_precedes (outer : List Nat) (earlier later : Nat) (left right : List Nat)
    (order : earlier < later) : outer ++ earlier :: left < outer ++ later :: right :=
  List.append_left_lt (List.cons_lt_cons_iff.mpr (Or.inl order))

theorem element_precedes (place : List Nat) (offset : Nat) (below : List Nat) :
    place < place ++ offset :: below := by
  have shifted : place ++ [] < place ++ offset :: below :=
    List.append_left_lt (List.nil_lt_cons offset below)
  rwa [List.append_nil] at shifted

mutual

theorem among_ordered (outer : List Nat) (position : Nat) (rows adjacent : List (List Segment)) :
    (siblings : List Element) →
      (matchesAmong outer position rows adjacent siblings).Pairwise Precedes
  | [] => by simp [matchesAmong]
  | element :: rest => by
      have inside := inside_ordered (outer ++ [position])
        (Pools.tryAll element.kind (rows ++ adjacent)).inner element
      have behind := among_ordered outer (position + 1)
        (rows ++ (Pools.tryAll element.kind (rows ++ adjacent)).later)
        (Pools.tryAll element.kind (rows ++ adjacent)).adjacent rest
      rw [matchesAmong, List.pairwise_append, List.pairwise_append]
      refine ⟨⟨by split <;> simp, inside, ?_⟩, behind, ?_⟩
      · intro left here right within
        obtain ⟨offset, below, place, _⟩ := inside_places _ _ element right within
        have same : left.path = outer ++ [position] := by
          split at here <;> simp_all
        rw [Precedes, same, place]
        exact element_precedes (outer ++ [position]) offset below
      · intro left before right after
        obtain ⟨offset, below, place, _⟩ := among_places _ _ _ _ rest right after
        have starts : ∃ deeper, left.path = outer ++ position :: deeper := by
          rcases List.mem_append.mp before with here | within
          · exact ⟨[], by split at here <;> simp_all⟩
          · obtain ⟨offset, below, place, _⟩ := inside_places _ _ element left within
            exact ⟨offset :: below, by simpa using place⟩
        obtain ⟨deeper, same⟩ := starts
        rw [Precedes, same, place]
        exact position_precedes outer position (position + 1 + offset) deeper below (by omega)

theorem inside_ordered (place : List Nat) (rows : List (List Segment)) :
    (element : Element) → (matchesInside place rows element).Pairwise Precedes
  | ⟨_, _, children⟩ => by
      rw [matchesInside]
      exact among_ordered place 0 rows [] children

end

theorem awaited_at_root (source : List Element) (groups : List (List Segment))
    (target : List Nat) (anywhere : ∀ group ∈ groups, StartsAnywhere group) :
    Awaited source [] 0 groups [] target ↔ ∃ group ∈ groups, Selects source group target := by
  constructor
  · rintro (⟨group, member, offset, start, _, run⟩ | ⟨_, absent, _⟩)
    · exact ⟨group, member, (selects_iff_runs source group target).mpr ⟨start, run⟩⟩
    · exact (List.not_mem_nil absent).elim
  · rintro ⟨group, member, selects⟩
    obtain ⟨start, run⟩ := (selects_iff_runs source group target).mp selects
    refine Or.inl ⟨group, member, ?_⟩
    cases group with
    | nil => exact run.elim
    | cons head rest =>
        obtain ⟨element, found, _⟩ := runs_fits source head rest start target run
        cases start with
        | nil => cases found
        | cons position below =>
            refine ⟨position, position :: below, ?_, run⟩
            rw [Nat.zero_add, List.nil_append]
            cases below with
            | nil => exact Or.inl rfl
            | cons inner deeper =>
                exact Or.inr ⟨anywhere _ member, inner :: deeper, List.cons_ne_nil inner deeper, rfl⟩

theorem segments_lead (skip : Nat) (combinator : Combinator) (tag text : List Char) :
    leads (segmentsAfter skip combinator tag text) = some combinator := by
  induction text generalizing skip tag with
  | nil => simp [segmentsAfter, leads]
  | cons c rest ih =>
      cases skip with
      | zero =>
          rw [segmentsAfter]
          split
          · exact ih 0 (c :: tag)
          · rfl
      | succ skip => exact ih skip tag

theorem parse_starts_anywhere (query : String) : ∀ group ∈ parse query, StartsAnywhere group := by
  intro group member
  obtain ⟨text, _, rfl⟩ := List.mem_map.mp member
  exact segments_lead 0 .descendant [] (trim text)

theorem mem_select_groups (source : List Element) (groups : List (List Segment))
    (anywhere : ∀ group ∈ groups, StartsAnywhere group) (found : Match) :
    found ∈ selectGroups groups source ↔
      elementAt source found.path = some found.element ∧
        ∃ group ∈ groups, Selects source group found.path := by
  have placed : Placed source [] 0 source := fun offset below => by simp
  have reached := fun target => (among_awaited source [] 0 groups [] target source placed).trans
    (awaited_at_root source groups target anywhere)
  have stands : ∀ found ∈ selectGroups groups source,
      elementAt source found.path = some found.element := by
    intro found member
    obtain ⟨offset, below, same, stands⟩ := among_places [] 0 groups [] source found member
    rw [same, List.nil_append, Nat.zero_add, stands]
  constructor
  · intro member
    exact ⟨stands found member, (reached found.path).mp (List.mem_map_of_mem member)⟩
  · rintro ⟨here, selected⟩
    obtain ⟨other, member, same⟩ := List.mem_map.mp ((reached found.path).mpr selected)
    have equal : other.element = found.element := by
      have there := stands other member
      rw [same, here] at there
      exact (Option.some.inj there).symm
    cases other
    cases found
    cases same
    cases equal
    exact member

/-- Selecting finds exactly the elements that an alternative selects, each once and in document
order. All alternatives of a parsed query start anywhere. -/
theorem select_groups_exact :
    (∀ query, ∀ group ∈ parse query, StartsAnywhere group) ∧
      ∀ groups source, (∀ group ∈ groups, StartsAnywhere group) →
        (∀ found, found ∈ selectGroups groups source ↔
          elementAt source found.path = some found.element ∧
            ∃ group ∈ groups, Selects source group found.path) ∧
        (selectGroups groups source).Pairwise Precedes :=
  ⟨parse_starts_anywhere, fun groups source anywhere =>
    ⟨mem_select_groups source groups anywhere, among_ordered [] 0 groups [] source⟩⟩

theorem select_groups_exact_siblings :
    (∀ group ∈ [[⟨"a", .descendant⟩, ⟨"b", .sibling⟩]], StartsAnywhere group) ∧
      Selects [⟨"p", [], [⟨"a", [], []⟩, ⟨"text", [], []⟩, ⟨"b", [], []⟩]⟩]
        [⟨"a", .descendant⟩, ⟨"b", .sibling⟩] [0, 2] := by
  have anywhere : ∀ group ∈ [[⟨"a", .descendant⟩, ⟨"b", .sibling⟩]], StartsAnywhere group := by
    intro group member
    rw [List.mem_singleton.mp member]
    rfl
  have found_iff := (select_groups_exact.2 _
    [⟨"p", [], [⟨"a", [], []⟩, ⟨"text", [], []⟩, ⟨"b", [], []⟩]⟩] anywhere).1
      ⟨[0, 2], ⟨"b", [], []⟩⟩
  obtain ⟨_, group, member, selects⟩ := found_iff.mp (by
    simp [selectGroups, matchesAmong, matchesInside, Pools.tryAll, Pools.tryRow, Pools.advance,
      Pools.empty, fits])
  rw [List.mem_singleton.mp member] at selects
  exact ⟨anywhere, selects⟩

end MarkupTemplate.Selector
