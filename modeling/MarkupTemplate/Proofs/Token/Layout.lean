import MarkupTemplate.Proofs.Token.Printable
import MarkupTemplate.Proofs.Token.Trimming

/-!
Printed rows with layout between their pieces. A row may have a run of layout before and behind it
and between any two pieces. Beside a text the run goes to that text, whose end it is trimmed off
again; between two tags it is a text of its own, of which trimming leaves nothing. Main statement: a
row of tags, and of texts without layout at their ends, is tokenized as if no layout stood there.
-/

namespace MarkupTemplate.Scan

/-- Nothing, or one run of layout. -/
def IsGap (gap : List Char) : Prop := gap = [] ∨ IsLayout gap

/-- The pieces one after another, with a gap between any two of them. -/
inductive Spaced : List (List Char) → List Char → Prop
  | nil : Spaced [] []
  | single (piece : List Char) : Spaced [piece] piece
  | cons (piece gap next text : List Char) (rest : List (List Char)) : IsGap gap →
      Spaced (next :: rest) text → Spaced (piece :: next :: rest) (piece ++ gap ++ text)

/-- The pieces with gaps between them and at both ends. -/
inductive LaidOut (pieces : List (List Char)) : List Char → Prop
  | intro (start text finish : List Char) : IsGap start → Spaced pieces text → IsGap finish →
      LaidOut pieces (start ++ text ++ finish)

def layoutChars : List Char := [' ', '\t', '\r', '\n']

/-- No space, tab or part of a line break stands at an end of the text. -/
structure Flush (text : List Char) : Prop where
  begins : ∀ c ∈ text.head?, c ∉ layoutChars
  ends : ∀ c ∈ text.getLast?, c ∉ layoutChars

theorem layout_chars_of_indent (c : Char) (indent : isIndent c = true) : c ∈ layoutChars := by
  rcases Bool.or_eq_true_iff.mp indent with space | tab
  · rw [beq_iff_eq.mp space]
    decide
  · rw [beq_iff_eq.mp tab]
    decide

theorem gap_chars (gap : List Char) (isGap : IsGap gap) : ∀ c ∈ gap, c ∈ layoutChars := by
  have lines : ∀ line ∈ lineBreaks, ∀ c ∈ line, c ∈ layoutChars := by
    simp [lineBreaks, layoutChars]
  intro c member
  rcases isGap with rfl | ⟨before, line, after, breaks, beforeIndents, afterIndents, rfl⟩
  · cases member
  · rcases List.mem_append.mp member with first | last
    · rcases List.mem_append.mp first with indent | part
      · exact layout_chars_of_indent c (beforeIndents c indent)
      · exact lines line breaks c part
    · exact layout_chars_of_indent c (afterIndents c last)

theorem escape_layout (text : List Char) (layout : ∀ c ∈ text, c ∈ layoutChars) :
    Entity.escapeChars false text = text := by
  have kept : ∀ c ∈ layoutChars, Entity.escapeChar false c = [c] := by
    simp [layoutChars, Entity.escapeChar]
  induction text with
  | nil => rfl
  | cons c rest ih =>
      have later := ih fun other member => layout other (List.mem_cons_of_mem c member)
      rw [Entity.escapeChars] at later
      rw [Entity.escapeChars, List.flatMap_cons, kept c (layout c List.mem_cons_self), later]
      rfl

theorem trim_start_layout (run text : List Char) (layout : IsLayout run) :
    trimBreakStart (run ++ text) = dropIndent text := by
  rcases layout_at_start (run ++ text) run text layout rfl with
    ⟨line, after, breaks, indents, behind, _⟩
  have rest : dropIndent (after ++ text) = dropIndent text := List.dropWhile_append_of_pos indents
  rw [← rest]
  unfold trimBreakStart
  rw [behind]
  rcases line_break_cases line breaks with rfl | rfl
  · rfl
  · rfl

-- A carriage return before the run would go with its line feed.
theorem trim_end_layout (text run : List Char) (layout : IsLayout run)
    (ends : text.getLast? ≠ some '\r') :
    trimBreakEnd (text ++ run) = (dropIndent text.reverse).reverse := by
  rcases layout_at_end (text ++ run) run text layout rfl with
    ⟨line, before, breaks, indents, behind, _⟩
  have rest : dropIndent (before ++ text.reverse) = dropIndent text.reverse :=
    List.dropWhile_append_of_pos indents
  have single : (before ++ text.reverse).head? ≠ some '\r' := by
    cases before with
    | nil => simpa using ends
    | cons c before =>
        intro returned
        rw [Option.some.inj returned] at indents
        exact absurd (indents '\r' List.mem_cons_self) (by decide)
  rw [← rest]
  unfold trimBreakEnd
  rcases line_break_cases line breaks with rfl | rfl
  · rw [behind]
    generalize before ++ text.reverse = left at single
    cases left with
    | nil => rfl
    | cons c left =>
        split
        · rename_i same
          exact absurd (congrArg List.head? (List.cons.inj same).2) single
        · rename_i same
          have tail : c :: left = _ := (List.cons.inj same).2
          rw [tail]
        · rename_i other
          exact (other _ rfl).elim
  · rw [behind]
    rfl

theorem flush_start (text : List Char) (begins : ∀ c ∈ text.head?, c ∉ layoutChars) :
    dropIndent text = text ∧ ¬ StartsWithBreak text := by
  cases text with
  | nil => exact ⟨rfl, fun ⟨indent, rest, _, whole⟩ => by simp at whole⟩
  | cons first rest =>
      have dark := begins first rfl
      constructor
      · apply List.dropWhile_cons_of_neg
        exact fun indent => dark (layout_chars_of_indent first indent)
      · rintro ⟨indent, left, indents, whole⟩
        cases indent with
        | nil =>
            rcases whole with same | same
            · rw [(List.cons.inj same).1] at dark
              exact dark (by decide)
            · rw [(List.cons.inj same).1] at dark
              exact dark (by decide)
        | cons c indent =>
            have same : first = c := by
              rcases whole with same | same
              · exact (List.cons.inj same).1
              · exact (List.cons.inj same).1
            rw [same] at dark
            exact dark (layout_chars_of_indent c (indents c List.mem_cons_self))

theorem trim_start_gap (gap text : List Char) (isGap : IsGap gap)
    (begins : ∀ c ∈ text.head?, c ∉ layoutChars) : trimBreakStart (gap ++ text) = text := by
  have start := flush_start text begins
  rcases isGap with rfl | layout
  · exact trim_start_unbroken text start.2
  · rw [trim_start_layout gap text layout]
    exact start.1

theorem flush_end (text : List Char) (ends : ∀ c ∈ text.getLast?, c ∉ layoutChars) :
    dropIndent text.reverse = text.reverse ∧ ¬ EndsWithBreak text := by
  have turned : ∀ c ∈ text.reverse.head?, c ∉ layoutChars := by
    rw [List.head?_reverse]
    exact ends
  have start := flush_start text.reverse turned
  refine ⟨start.1, ?_⟩
  rintro ⟨rest, indent, indents, whole⟩
  refine start.2 ⟨indent.reverse, rest.reverse, ?_, Or.inl ?_⟩
  · exact fun c member => indents c (List.mem_reverse.mp member)
  · simp [whole]

theorem trim_end_gap (text gap : List Char) (isGap : IsGap gap)
    (ends : ∀ c ∈ text.getLast?, c ∉ layoutChars) : trimBreakEnd (text ++ gap) = text := by
  have finish := flush_end text ends
  rcases isGap with rfl | layout
  · rw [List.append_nil]
    exact trim_end_unbroken text finish.2
  · have single : text.getLast? ≠ some '\r' := fun same => ends '\r' same (by decide)
    rw [trim_end_layout text gap layout single, finish.1, List.reverse_reverse]

-- Trimming the start of two runs leaves the second, but for the indent in front of its line break.
theorem trim_gaps (start finish : List Char) (isStart : IsGap start) (isFinish : IsGap finish) :
    trimBreakEnd (trimBreakStart (start ++ finish)) = [] := by
  have nothing : ∀ gap, IsGap gap → trimBreakEnd gap = [] := fun gap isGap =>
    trim_end_gap [] gap isGap (by simp)
  rcases isStart with rfl | layout
  · have trimmed := trim_start_gap finish [] isFinish (by simp)
    rw [List.append_nil] at trimmed
    rw [List.nil_append, trimmed]
    exact nothing [] (Or.inl rfl)
  · rw [trim_start_layout start finish layout]
    apply nothing
    rcases isFinish with rfl | ⟨before, line, after, breaks, beforeIndents, afterIndents, rfl⟩
    · exact Or.inl rfl
    · have stops := (line_break_ends line after breaks).1
      have spans := span_word isIndent before (line ++ after) beforeIndents stops
      rw [List.append_assoc, dropIndent, spans.2]
      exact Or.inr ⟨[], line, after, breaks, by simp, afterIndents, rfl⟩

theorem text_piece_gaps (start finish : List Char) (isStart : IsGap start)
    (isFinish : IsGap finish) : textPiece true true (start ++ finish) = [] := by
  have layout : ∀ c ∈ start ++ finish, c ∈ layoutChars := by
    intro c member
    rcases List.mem_append.mp member with first | last
    · exact gap_chars start isStart c first
    · exact gap_chars finish isFinish c last
  have decoded := Entity.unescape_escape_chars false (start ++ finish)
  rw [escape_layout _ layout] at decoded
  rw [textPiece, decoded]
  simp [trim_gaps start finish isStart isFinish]

theorem text_piece_flush (start content finish : List Char) (isStart : IsGap start)
    (isFinish : IsGap finish) (filled : content ≠ []) (flush : Flush content) :
    textPiece true true (start ++ Entity.escapeChars false content ++ finish) =
      [.text (String.ofList content)] := by
  have escaped : Entity.escapeChars false (start ++ (content ++ finish)) =
      start ++ Entity.escapeChars false content ++ finish := by
    have first := escape_layout start (gap_chars start isStart)
    have last := escape_layout finish (gap_chars finish isFinish)
    simp only [Entity.escapeChars] at first last ⊢
    rw [List.flatMap_append, List.flatMap_append, first, last, List.append_assoc]
  have begins : ∀ c ∈ (content ++ finish).head?, c ∉ layoutChars := by
    cases content with
    | nil => exact (filled rfl).elim
    | cons c content => exact flush.begins
  have started := trim_start_gap start (content ++ finish) isStart begins
  have ended := trim_end_gap content finish isFinish flush.ends
  rw [← escaped, textPiece, Entity.unescape_escape_chars]
  simp [started, ended, filled]

def Item.Flush : Item → Prop
  | .text content => Scan.Flush content
  | _ => True

theorem gap_pending (gap pending rest : List Char) (isGap : IsGap gap) :
    piecesAfter false 0 true pending (gap ++ rest) =
      piecesAfter false 0 true (gap.reverse ++ pending) rest := by
  have dark : '<' ∉ gap := fun member => absurd (gap_chars gap isGap '<' member) (by decide)
  exact pieces_run false true gap pending rest dark fun on => by cases on

theorem text_pending (start content gap rest : List Char) (isGap : IsGap gap) :
    piecesAfter false 0 true start.reverse
        (Entity.escapeChars false content ++ (gap ++ rest)) =
      piecesAfter false 0 true (start ++ Entity.escapeChars false content ++ gap).reverse rest := by
  have dark := Entity.not_mem_escape_chars false content '<' (Or.inl rfl)
  rw [pieces_run false true _ _ _ dark (fun on => by cases on), gap_pending gap _ _ isGap,
    List.reverse_append, List.reverse_append]

theorem pieces_last_text (start content finish : List Char) (isStart : IsGap start)
    (isFinish : IsGap finish) (filled : content ≠ []) (flush : Flush content) :
    piecesAfter false 0 true start.reverse (Entity.escapeChars false content ++ finish) =
      [.text (String.ofList content)] := by
  have pending := text_pending start content finish [] isFinish
  rw [List.append_nil] at pending
  rw [pending, piecesAfter, List.reverse_reverse]
  exact text_piece_flush start content finish isStart isFinish filled flush

theorem pieces_text_tag (start content gap inside rest : List Char) (isStart : IsGap start)
    (isGap : IsGap gap) (filled : content ≠ []) (flush : Flush content) (closed : '>' ∉ inside)
    (tag : inside.head? ≠ some '!') :
    piecesAfter false 0 true start.reverse
        (Entity.escapeChars false content ++ (gap ++ '<' :: (inside ++ '>' :: rest))) =
      .text (String.ofList content) ::
        piecesAfter false 0 true [] ('<' :: (inside ++ '>' :: rest)) := by
  rw [text_pending start content gap _ isGap,
    pieces_before_tag false true _ inside rest closed tag, List.reverse_reverse,
    text_piece_flush start content gap isStart isGap filled flush]
  rfl

theorem pieces_tag_gap (start inside gap rest : List Char) (isStart : IsGap start)
    (isGap : IsGap gap) (closed : '>' ∉ inside) (tag : inside.head? ≠ some '!') :
    piecesAfter false 0 true start.reverse ('<' :: (inside ++ '>' :: (gap ++ rest))) =
      .token (tagOf inside) :: piecesAfter false 0 true gap.reverse rest := by
  have nothing := text_piece_gaps start [] isStart (Or.inl rfl)
  rw [List.append_nil] at nothing
  rw [pieces_tag false true _ inside _ closed tag, List.reverse_reverse, nothing,
    gap_pending gap [] rest isGap, List.append_nil]
  rfl

theorem spaced_cons (piece text : List Char) (rest : List (List Char))
    (spaced : Spaced (piece :: rest) text) :
    ∃ gap behind, IsGap gap ∧ Spaced rest behind ∧ text = piece ++ (gap ++ behind) := by
  cases spaced with
  | single => exact ⟨[], [], Or.inl rfl, .nil, by simp⟩
  | cons _ gap next behind rest isGap spaced =>
      exact ⟨gap, behind, isGap, spaced, List.append_assoc piece gap behind⟩

theorem tag_starts (item : Item) (rest : List (List Char)) (text finish : List Char)
    (plain : item.Plain false) (mark : item.isText = false)
    (spaced : Spaced (item.source :: rest) text) :
    ∃ inside tail, '>' ∉ inside ∧ inside.head? ≠ some '!' ∧
      text ++ finish = '<' :: (inside ++ '>' :: tail) := by
  rcases spaced_cons _ _ _ spaced with ⟨gap, behind, _, _, rfl⟩
  cases item with
  | text content => cases mark
  | directive inside => cases plain.1
  | tag inside =>
      refine ⟨inside, gap ++ behind ++ finish, plain.1, plain.2, ?_⟩
      rw [List.append_assoc, tag_source]

-- The induction is on the items; the layout in front of the next item is still pending.
theorem pieces_spaced (items : List Item) (printable : Printable false items)
    (flush : ∀ item ∈ items, item.Flush) (start text finish : List Char) (isStart : IsGap start)
    (spaced : Spaced (items.map Item.source) text) (isFinish : IsGap finish) :
    piecesAfter false 0 true start.reverse (text ++ finish) = items.map Item.piece := by
  induction items generalizing start text with
  | nil =>
      cases spaced
      have pending := gap_pending finish start.reverse [] isFinish
      rw [List.append_nil] at pending
      rw [List.nil_append, pending, piecesAfter, ← List.reverse_append, List.reverse_reverse,
        text_piece_gaps start finish isStart isFinish]
      rfl
  | cons item rest ih =>
      have fits := printable.plain item List.mem_cons_self
      have later := ih (printable_rest false item rest printable)
        (fun other member => flush other (List.mem_cons_of_mem item member))
      cases item with
      | directive inside => cases fits.1
      | tag inside =>
          rcases spaced_cons _ _ _ spaced with ⟨gap, behind, isGap, spacedBehind, rfl⟩
          rw [List.append_assoc, tag_source, List.append_assoc,
            pieces_tag_gap start inside gap _ isStart isGap fits.1 fits.2,
            later gap behind isGap spacedBehind]
          rfl
      | text content =>
          have flushText : Flush content := flush _ List.mem_cons_self
          cases rest with
          | nil =>
              cases spaced
              exact pieces_last_text start content finish isStart isFinish fits.1 flushText
          | cons next more =>
              cases spaced with
              | cons _ gap _ behind _ isGap spacedBehind =>
                  have fitsNext := printable.plain next (by simp)
                  rcases tag_starts next _ behind finish fitsNext (printable.separated.1 rfl)
                    spacedBehind with ⟨inside, tail, closed, tag, starts⟩
                  have rests := later [] behind (Or.inl rfl) spacedBehind
                  rw [List.reverse_nil, starts] at rests
                  rw [List.append_assoc, List.append_assoc, Item.source, starts,
                    pieces_text_tag start content gap inside tail isStart isGap fits.1 flushText
                      closed tag, rests]
                  rfl

/-- Layout beside the pieces of a row gives no piece of its own, and no text keeps any of it. -/
theorem tokenize_laid_out (source : String) (items : List Item) (printable : Printable false items)
    (flush : ∀ item ∈ items, item.Flush)
    (laidOut : LaidOut (items.map Item.source) source.toList) :
    tokenize false source = items.map Item.piece := by
  rw [tokenize]
  generalize source.toList = whole at laidOut
  cases laidOut with
  | intro start text finish isStart spaced isFinish =>
      have walked := pieces_spaced items printable flush start text finish isStart spaced isFinish
      have pending := gap_pending start [] (text ++ finish) isStart
      rw [List.append_nil] at pending
      rw [List.append_assoc, pending, walked]

end MarkupTemplate.Scan
