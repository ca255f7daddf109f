import MarkupTemplate.Selector.Match

/-!
The meaning of selectors, told backwards from the selected element: its last
segment has to fit the element, and the segments before it have to select an
element that stands in the right relation to it. Elements are named by their
places. Main statement: a row of segments selects a place exactly when a run
through the row, first segment first, ends there.
-/

namespace MarkupTemplate.Selector

/-- The element at a place, the position among siblings at every level. No element is at the
empty place. -/
def elementAt : List Element → List Nat → Option Element
  | _, [] => none
  | siblings, [position] => siblings[position]?
  | siblings, position :: inner :: below =>
      siblings[position]?.bind fun element => elementAt element.children (inner :: below)

def Fits (source : List Element) (segment : Segment) (place : List Nat) : Prop :=
  ∃ element, elementAt source place = some element ∧
    (segment.tag = "*" ∨ segment.tag = element.kind)

/-- How the place that a segment fits lies to the place before it. -/
def Related : Combinator → List Nat → List Nat → Prop
  | .descendant, other, place => ∃ below, below ≠ [] ∧ place = other ++ below
  | .child, other, place => ∃ position, place = other ++ [position]
  | .adjacent, other, place =>
      ∃ outer position, other = outer ++ [position] ∧ place = outer ++ [position + 1]
  | .sibling, other, place =>
      ∃ outer earlier later, earlier < later ∧
        other = outer ++ [earlier] ∧ place = outer ++ [later]

inductive Selects (source : List Element) : List Segment → List Nat → Prop where
  | single (segment : Segment) (place : List Nat) :
      Fits source segment place → Selects source [segment] place
  | further (before : List Segment) (last : Segment) (other place : List Nat) :
      Selects source before other → Related last.combinator other place →
      Fits source last place → Selects source (before ++ [last]) place

/-- The combinator of the first segment of a row. -/
def leads (row : List Segment) : Option Combinator := row.head?.map Segment.combinator

/-- A row whose first segment may fit at any depth. -/
def StartsAnywhere (row : List Segment) : Prop := leads row = some .descendant

/-- A run through a row: its first segment fits at the start, and its last one at the target. -/
def RunsTo (source : List Element) : List Segment → List Nat → List Nat → Prop
  | [], _, _ => False
  | [segment], start, target => Fits source segment start ∧ target = start
  | segment :: next :: rest, start, target =>
      Fits source segment start ∧
        ∃ place, Related next.combinator start place ∧ RunsTo source (next :: rest) place target

theorem runs_fits (source : List Element) (segment : Segment) (rest : List Segment)
    (start target : List Nat) (run : RunsTo source (segment :: rest) start target) :
    Fits source segment start := by
  cases rest with
  | nil => exact run.1
  | cons next rest => exact run.1

theorem runs_extend (source : List Element) (row : List Segment) (last : Segment)
    (start other place : List Nat) (run : RunsTo source row start other)
    (related : Related last.combinator other place) (fits : Fits source last place) :
    RunsTo source (row ++ [last]) start place := by
  induction row generalizing start with
  | nil => exact run.elim
  | cons segment rest ih =>
      cases rest with
      | nil =>
          obtain ⟨first, rfl⟩ := run
          exact ⟨first, place, related, fits, rfl⟩
      | cons next rest =>
          obtain ⟨first, middle, step, onward⟩ := run
          exact ⟨first, middle, step, ih middle onward⟩

theorem selects_runs (source : List Element) (row : List Segment) (target : List Nat)
    (selects : Selects source row target) : ∃ start, RunsTo source row start target := by
  induction selects with
  | single segment place fits => exact ⟨place, fits, rfl⟩
  | further before last other place _ related fits ih =>
      obtain ⟨start, run⟩ := ih
      exact ⟨start, runs_extend source before last start other place run related fits⟩

-- The segments passed so far go into the conclusion, so that a run can be taken apart from its
-- first segment on while selection grows at the last one.
theorem runs_onward (source : List Element) (before : List Segment) (next : Segment)
    (rest : List Segment) (other start target : List Nat) (selects : Selects source before other)
    (related : Related next.combinator other start)
    (run : RunsTo source (next :: rest) start target) :
    Selects source (before ++ next :: rest) target := by
  induction rest generalizing before next other start with
  | nil =>
      obtain ⟨fits, rfl⟩ := run
      exact .further before next other target selects related fits
  | cons later rest ih =>
      obtain ⟨fits, place, step, onward⟩ := run
      have reached : Selects source (before ++ [next]) start :=
        .further before next other start selects related fits
      simpa using ih (before ++ [next]) later start place reached step onward

theorem selects_iff_runs (source : List Element) (row : List Segment) (target : List Nat) :
    Selects source row target ↔ ∃ start, RunsTo source row start target := by
  constructor
  · exact selects_runs source row target
  · rintro ⟨start, run⟩
    cases row with
    | nil => exact run.elim
    | cons segment rest =>
        cases rest with
        | nil =>
            obtain ⟨fits, rfl⟩ := run
            exact .single segment target fits
        | cons next rest =>
            obtain ⟨fits, place, related, onward⟩ := run
            exact runs_onward source [segment] next rest start place target
              (.single segment start fits) related onward

theorem element_at_head (element : Element) (rest : List Element) (below : List Nat) :
    elementAt (element :: rest) (0 :: below) =
      if below = [] then some element else elementAt element.children below := by
  cases below <;> simp [elementAt]

theorem element_at_later (element : Element) (rest : List Element) (position : Nat)
    (below : List Nat) :
    elementAt (element :: rest) ((position + 1) :: below) =
      elementAt rest (position :: below) := by
  cases below <;> simp [elementAt]

theorem element_at_none (position : Nat) (below : List Nat) :
    elementAt [] (position :: below) = none := by
  cases below <;> simp [elementAt]

end MarkupTemplate.Selector
