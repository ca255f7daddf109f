import MarkupTemplate.Proofs.Token.Tags

/-!
What trimming takes off a text. A run of layout is a line break with the spaces
and tabs around it. Main statements: at either end of a text trimming takes off the
longest run of layout that stands there, and nothing where none does.
-/

namespace MarkupTemplate.Scan

def lineBreaks : List (List Char) := [['\n'], ['\r', '\n']]

/-- A line break with the spaces and tabs around it. -/
def IsLayout (run : List Char) : Prop :=
  ∃ before line after, line ∈ lineBreaks ∧ (∀ c ∈ before, isIndent c = true) ∧
    (∀ c ∈ after, isIndent c = true) ∧ run = before ++ line ++ after

/-- What is left of a text without the longest run of layout at one of its ends; `join` puts a run
back where it was. -/
inductive Loses (join : List Char → List Char → List Char) (text : List Char) : List Char → Prop
  | run (run rest : List Char) (layout : IsLayout run) (whole : join run rest = text)
      (longest : ∀ other left, IsLayout other → join other left = text →
        other.length ≤ run.length) : Loses join text rest
  | nothing (none : ∀ run rest, IsLayout run → join run rest ≠ text) : Loses join text text

def atStart (run rest : List Char) : List Char := run ++ rest

def atEnd (run rest : List Char) : List Char := rest ++ run

theorem loses_unique (join : List Char → List Char → List Char)
    (cancels : ∀ run rest other left, join run rest = join other left →
      run.length = other.length → rest = left)
    (text first second : List Char) (one : Loses join text first) (two : Loses join text second) :
    first = second := by
  cases one with
  | run run _ layout whole longest =>
      cases two with
      | run other _ otherLayout otherWhole otherLongest =>
          have same : run.length = other.length :=
            Nat.le_antisymm (otherLongest run first layout whole)
              (longest other second otherLayout otherWhole)
          exact cancels run first other second (whole.trans otherWhole.symm) same
      | nothing none => exact (none run first layout whole).elim
  | nothing none =>
      cases two with
      | run other _ otherLayout otherWhole _ =>
          exact (none other second otherLayout otherWhole).elim
      | nothing _ => rfl

/-- A text loses the layout at one of its ends unless it is kept there. -/
def Trims (join : List Char → List Char → List Char) (kept : Bool) (text rest : List Char) : Prop :=
  if kept then rest = text else Loses join text rest

theorem trims_unique (join : List Char → List Char → List Char)
    (cancels : ∀ run rest other left, join run rest = join other left →
      run.length = other.length → rest = left)
    (kept : Bool) (text first second : List Char) (one : Trims join kept text first)
    (two : Trims join kept text second) : first = second := by
  cases kept with
  | true => exact Eq.trans one (Eq.symm two)
  | false => exact loses_unique join cancels text first second one two

theorem trims_unless (join : List Char → List Char → List Char) (trim : List Char → List Char)
    (loses : ∀ text, Loses join text (trim text)) (kept : Bool) (text : List Char) :
    Trims join kept text (if !kept then trim text else text) := by
  cases kept with
  | true => exact rfl
  | false => exact loses text

theorem at_start_cancels (run rest other left : List Char)
    (same : atStart run rest = atStart other left) (length : run.length = other.length) :
    rest = left :=
  (List.append_inj same length).2

theorem at_end_cancels (run rest other left : List Char)
    (same : atEnd run rest = atEnd other left) (length : run.length = other.length) :
    rest = left :=
  (List.append_inj' same length).1

theorem indents_taken (indent rest : List Char) (indents : ∀ c ∈ indent, isIndent c = true) :
    indent.length ≤ ((indent ++ rest).takeWhile isIndent).length := by
  rw [List.takeWhile_append_of_pos indents, List.length_append]
  exact Nat.le_add_right _ _

theorem take_indents (text : List Char) : ∀ c ∈ text.takeWhile isIndent, isIndent c = true :=
  fun c member => List.all_eq_true.mp List.all_takeWhile c member

theorem take_drop_indent (text : List Char) : text.takeWhile isIndent ++ dropIndent text = text :=
  List.takeWhile_append_dropWhile

-- No line break begins or ends with an indent.
theorem line_break_ends (line rest : List Char) (breaks : line ∈ lineBreaks) :
    (∀ c ∈ (line ++ rest).head?, isIndent c = false) ∧
      ∀ c ∈ (line.reverse ++ rest).head?, isIndent c = false := by
  simp only [lineBreaks, List.mem_cons, List.not_mem_nil, or_false] at breaks
  rcases breaks with rfl | rfl
  · simp [isIndent]
  · simp [isIndent]

-- Behind the indent at its start, a text that begins with layout goes on with the line break.
theorem layout_at_start (text run left : List Char) (layout : IsLayout run)
    (whole : atStart run left = text) :
    ∃ line after, line ∈ lineBreaks ∧ (∀ c ∈ after, isIndent c = true) ∧
      dropIndent text = line ++ (after ++ left) ∧
      run.length = (text.takeWhile isIndent).length + line.length + after.length := by
  obtain ⟨before, line, after, breaks, beforeIndents, afterIndents, rfl⟩ := layout
  have split : text = before ++ (line ++ (after ++ left)) := by
    rw [← whole, atStart]
    simp
  have spans := span_word isIndent before (line ++ (after ++ left)) beforeIndents
    (line_break_ends line _ breaks).1
  rw [← split] at spans
  refine ⟨line, after, breaks, afterIndents, spans.2, ?_⟩
  rw [spans.1, List.length_append, List.length_append]

theorem layout_at_end (text run left : List Char) (layout : IsLayout run)
    (whole : atEnd run left = text) :
    ∃ line before, line ∈ lineBreaks ∧ (∀ c ∈ before, isIndent c = true) ∧
      dropIndent text.reverse = line.reverse ++ (before ++ left.reverse) ∧
      run.length = (text.reverse.takeWhile isIndent).length + line.length + before.length := by
  obtain ⟨before, line, after, breaks, beforeIndents, afterIndents, rfl⟩ := layout
  have split : text.reverse =
      after.reverse ++ (line.reverse ++ (before.reverse ++ left.reverse)) := by
    rw [← whole, atEnd]
    simp
  have spans := span_word isIndent after.reverse (line.reverse ++ (before.reverse ++ left.reverse))
    (fun c member => afterIndents c (List.mem_reverse.mp member))
    (line_break_ends line _ breaks).2
  rw [← split] at spans
  refine ⟨line, before.reverse, breaks, ?_, spans.2, ?_⟩
  · exact fun c member => beforeIndents c (List.mem_reverse.mp member)
  · rw [spans.1, List.length_append, List.length_append, List.length_reverse, List.length_reverse]
    omega

theorem line_break_cases (line : List Char) (breaks : line ∈ lineBreaks) :
    line = ['\n'] ∨ line = ['\r', '\n'] := by
  simpa [lineBreaks] using breaks

-- No line break begins another one.
theorem line_break_first (line other rest left : List Char) (breaks : line ∈ lineBreaks)
    (otherBreaks : other ∈ lineBreaks) (same : line ++ rest = other ++ left) :
    line = other ∧ rest = left := by
  rcases line_break_cases line breaks with rfl | rfl
  · rcases line_break_cases other otherBreaks with rfl | rfl
    · simpa using same
    · simp at same
  · rcases line_break_cases other otherBreaks with rfl | rfl
    · simp at same
    · simpa using same

theorem start_line_loses (text line rest : List Char) (breaks : line ∈ lineBreaks)
    (behind : dropIndent text = line ++ rest) : Loses atStart text (dropIndent rest) := by
  have whole := take_drop_indent text
  rw [behind] at whole
  apply Loses.run (text.takeWhile isIndent ++ line ++ rest.takeWhile isIndent)
  · exact ⟨_, line, _, breaks, take_indents text, take_indents rest, rfl⟩
  · simpa [atStart, take_drop_indent] using whole
  · intro other left layout joined
    obtain ⟨found, after, otherBreaks, indents, split, length⟩ :=
      layout_at_start text other left layout joined
    rw [behind] at split
    obtain ⟨rfl, same⟩ := line_break_first line found rest _ breaks otherBreaks split
    have taken := indents_taken after left indents
    rw [← same] at taken
    simp only [List.length_append]
    omega

theorem trim_start_loses (text : List Char) : Loses atStart text (trimBreakStart text) := by
  unfold trimBreakStart
  split
  · rename_i rest behind
    exact start_line_loses text ['\n'] rest (by decide) behind
  · rename_i rest behind
    exact start_line_loses text ['\r', '\n'] rest (by decide) behind
  · rename_i noLine noReturn
    apply Loses.nothing
    intro run rest layout joined
    obtain ⟨line, after, breaks, _, found, _⟩ := layout_at_start text run rest layout joined
    rcases line_break_cases line breaks with rfl | rfl
    · exact noLine _ found
    · exact noReturn _ found

-- A line feed counts alone only where no carriage return stands before it.
theorem end_line_loses (text line rest : List Char) (breaks : line ∈ lineBreaks)
    (behind : dropIndent text.reverse = line.reverse ++ rest)
    (single : line = ['\n'] → rest.head? ≠ some '\r') :
    Loses atEnd text (dropIndent rest).reverse := by
  have whole := take_drop_indent text.reverse
  rw [behind] at whole
  apply Loses.run
    ((rest.takeWhile isIndent).reverse ++ line ++ (text.reverse.takeWhile isIndent).reverse)
  · exact ⟨_, line, _, breaks,
      fun c member => take_indents rest c (List.mem_reverse.mp member),
      fun c member => take_indents text.reverse c (List.mem_reverse.mp member), rfl⟩
  · have turned := congrArg List.reverse whole
    rw [← take_drop_indent rest] at turned
    simpa [atEnd] using turned
  · intro other left layout joined
    obtain ⟨found, before, otherBreaks, indents, split, length⟩ :=
      layout_at_end text other left layout joined
    rw [behind] at split
    have taken := indents_taken before left.reverse indents
    simp only [List.length_append, List.length_reverse]
    rcases line_break_cases line breaks with rfl | rfl
    · rcases line_break_cases found otherBreaks with rfl | rfl
      · have same : rest = before ++ left.reverse := by simpa using split
        rw [← same] at taken
        omega
      · have same : rest = '\r' :: (before ++ left.reverse) := by simpa using split
        exact (single rfl (by rw [same, List.head?_cons])).elim
    · rcases line_break_cases found otherBreaks with rfl | rfl
      · have same : '\r' :: rest = before ++ left.reverse := by simpa using split
        -- The run begins with the line feed, since a carriage return is no indent.
        cases before with
        | nil =>
            simp only [List.length_cons, List.length_nil] at length ⊢
            omega
        | cons c before =>
            have first : '\r' = c := (List.cons.inj same).1
            rw [← first] at indents
            exact absurd (indents '\r' List.mem_cons_self) (by decide)
      · have same : rest = before ++ left.reverse := by simpa using split
        rw [← same] at taken
        omega

theorem trim_end_loses (text : List Char) : Loses atEnd text (trimBreakEnd text) := by
  unfold trimBreakEnd
  split
  · rename_i rest behind
    exact end_line_loses text ['\r', '\n'] rest (by decide) behind (by simp)
  · rename_i rest single behind
    refine end_line_loses text ['\n'] rest (by decide) behind ?_
    intro _ returned
    cases rest with
    | nil => cases returned
    | cons c rest =>
        cases returned
        exact single rest rfl
  · rename_i noReturn noLine
    apply Loses.nothing
    intro run rest layout joined
    obtain ⟨line, before, breaks, _, found, _⟩ := layout_at_end text run rest layout joined
    rcases line_break_cases line breaks with rfl | rfl
    · exact noLine _ found
    · exact noReturn _ found

end MarkupTemplate.Scan
