import MarkupTemplate.Proofs.Text.Entity
import MarkupTemplate.Proofs.Token.Tags

/-!
Reading undoes printing, piece by piece. An item is a text that is printed
escaped, or what a tag or a directive has between its brackets. Main statement:
the pieces of a printed row of items are these tags and directives as they
stand, and between them the texts, trimmed by their neighbours alone.
-/

namespace MarkupTemplate.Scan

inductive Item where
  | text (content : List Char)
  | tag (inside : List Char)
  | directive (inside : List Char)

namespace Item

def source : Item → List Char
  | .text content => Entity.escapeChars false content
  | .tag inside => '<' :: inside ++ ['>']
  | .directive inside => '{' :: inside ++ ['}']

/-- The item has none of the characters that would end it early, or begin something else. -/
def Plain (templated : Bool) : Item → Prop
  | .text content => content ≠ [] ∧ (templated = true → '{' ∉ content)
  | .tag inside => '>' ∉ inside ∧ inside.head? ≠ some '!'
  | .directive inside => templated = true ∧ '}' ∉ inside

def isText : Item → Bool
  | .text _ => true
  | _ => false

end Item

def startsWithText : List Item → Bool
  | [] => false
  | item :: _ => item.isText

/-- No two texts stand side by side. -/
def Separated : List Item → Prop
  | [] => True
  | item :: rest => (item.isText = true → startsWithText rest = false) ∧ Separated rest

/-- A text is trimmed at its end unless a directive follows. -/
def trimsBefore : List Item → Bool
  | .directive _ :: _ => false
  | _ => true

def itemPieces : (layout : Bool) → List Item → List Piece
  | _, [] => []
  | layout, .text content :: rest =>
      textPiece layout (trimsBefore rest) (Entity.escapeChars false content) ++
        itemPieces true rest
  | _, .tag inside :: rest => .token (tagOf inside) :: itemPieces true rest
  | _, .directive inside :: rest => .token (directiveOf inside) :: itemPieces false rest

theorem pieces_skip (templated layout : Bool) (skip : Nat) (pending text : List Char) :
    piecesAfter templated skip layout pending text =
      piecesAfter templated 0 layout pending (text.drop skip) := by
  induction text generalizing skip with
  | nil => simp [piecesAfter]
  | cons c rest ih =>
      cases skip with
      | zero => rfl
      | succ skip => rw [piecesAfter, ih, List.drop_succ_cons]

theorem mark_none (templated : Bool) (c : Char) (rest : List Char) (angle : c ≠ '<')
    (curly : templated = true → c ≠ '{') : markAt? templated c rest = none := by
  rw [markAt?, if_neg angle, if_neg fun both => curly both.1 both.2]

-- A run of text goes to what is pending.
theorem pieces_run (templated layout : Bool) (run pending rest : List Char) (angle : '<' ∉ run)
    (curly : templated = true → '{' ∉ run) :
    piecesAfter templated 0 layout pending (run ++ rest) =
      piecesAfter templated 0 layout (run.reverse ++ pending) rest := by
  induction run generalizing pending with
  | nil => rfl
  | cons c run ih =>
      simp only [List.mem_cons, not_or] at angle curly
      have none := mark_none templated c (run ++ rest) (Ne.symm angle.1)
        fun on => Ne.symm (curly on).1
      rw [List.cons_append, piecesAfter, none]
      simp only
      rw [ih (c :: pending) angle.2 fun on => (curly on).2]
      simp

theorem angle_mark (inside rest : List Char) (closed : '>' ∉ inside)
    (tag : inside.head? ≠ some '!') :
    angleMark? (inside ++ '>' :: rest) = some (.token (tagOf inside), inside.length + 1) := by
  have found := text_before_single '>' inside rest closed
  unfold angleMark?
  cases inside with
  | nil => simp [textBefore?]
  | cons c inside =>
      have other : c ≠ '!' := by simpa using tag
      -- The inside of a tag begins no comment.
      have begin : ∀ body, (c :: inside) ++ '>' :: rest ≠ '!' :: '-' :: '-' :: body := by
        intro body same
        exact other (List.cons.inj same).1
      split
      · rename_i body same
        exact (begin body same).elim
      · rw [found]
        rfl

-- The text pending before a mark is complete, and reading goes on behind the mark.
theorem pieces_mark (templated layout : Bool) (pending rest : List Char) (first : Char)
    (mark : Mark) (more : Nat) (found : markAt? templated first rest = some (mark, more)) :
    piecesAfter templated 0 layout pending (first :: rest) =
      textPiece layout mark.takesLayout pending.reverse ++ mark.pieces ++
        piecesAfter templated 0 mark.takesLayout [] (rest.drop more) := by
  rw [piecesAfter, found]
  simp only
  rw [pieces_skip]

theorem drop_closing (closing : Char) (inside rest : List Char) :
    (inside ++ closing :: rest).drop (inside.length + 1) = rest := by
  rw [List.drop_append]
  simp

theorem pieces_tag (templated layout : Bool) (pending inside rest : List Char)
    (closed : '>' ∉ inside) (tag : inside.head? ≠ some '!') :
    piecesAfter templated 0 layout pending ('<' :: (inside ++ '>' :: rest)) =
      textPiece layout true pending.reverse ++
        .token (tagOf inside) :: piecesAfter templated 0 true [] rest := by
  have found : markAt? templated '<' (inside ++ '>' :: rest) =
      some (.token (tagOf inside), inside.length + 1) := angle_mark inside rest closed tag
  have layoutTaken : (Mark.token (tagOf inside)).takesLayout = true := rfl
  rw [pieces_mark templated layout pending _ '<' _ _ found, drop_closing, layoutTaken]
  simp [Mark.pieces]

theorem directive_bracket (inside : List Char) : (directiveOf inside).bracket = .curly := by
  unfold directiveOf
  split <;> rfl

theorem pieces_directive (layout : Bool) (pending inside rest : List Char)
    (closed : '}' ∉ inside) :
    piecesAfter true 0 layout pending ('{' :: (inside ++ '}' :: rest)) =
      textPiece layout false pending.reverse ++
        .token (directiveOf inside) :: piecesAfter true 0 false [] rest := by
  have found : markAt? true '{' (inside ++ '}' :: rest) =
      some (.token (directiveOf inside), inside.length + 1) := by
    simp [markAt?, curlyMark?, text_before_single '}' inside rest closed]
  have noLayout : (Mark.token (directiveOf inside)).takesLayout = false := by
    rw [Mark.takesLayout, directive_bracket]
    rfl
  rw [pieces_mark true layout pending _ '{' _ _ found, drop_closing, noLayout]
  simp [Mark.pieces]

theorem text_piece_nothing (trimsStart trimsEnd : Bool) : textPiece trimsStart trimsEnd [] = [] := by
  cases trimsStart <;> cases trimsEnd <;> decide

def sourceOf (items : List Item) : List Char := items.flatMap Item.source

theorem source_cons (item : Item) (rest : List Item) :
    sourceOf (item :: rest) = item.source ++ sourceOf rest := List.flatMap_cons

theorem source_append (left right : List Item) :
    sourceOf (left ++ right) = sourceOf left ++ sourceOf right := List.flatMap_append

theorem tag_source (inside rest : List Char) :
    (Item.tag inside).source ++ rest = '<' :: (inside ++ '>' :: rest) := by
  simp [Item.source]

theorem directive_source (inside rest : List Char) :
    (Item.directive inside).source ++ rest = '{' :: (inside ++ '}' :: rest) := by
  simp [Item.source]

theorem pieces_before_tag (templated layout : Bool) (pending inside rest : List Char)
    (closed : '>' ∉ inside) (tag : inside.head? ≠ some '!') :
    piecesAfter templated 0 layout pending ('<' :: (inside ++ '>' :: rest)) =
      textPiece layout true pending.reverse ++
        piecesAfter templated 0 true [] ('<' :: (inside ++ '>' :: rest)) := by
  rw [pieces_tag templated layout pending inside rest closed tag,
    pieces_tag templated true [] inside rest closed tag, List.reverse_nil, text_piece_nothing,
    List.nil_append]

-- What is pending before a tag, a directive or the end is a text of its own.
theorem pieces_pending (templated layout : Bool) (pending : List Char) (rest : List Item)
    (plain : ∀ item ∈ rest, item.Plain templated) (mark : startsWithText rest = false) :
    piecesAfter templated 0 layout pending (sourceOf rest) =
      textPiece layout (trimsBefore rest) pending.reverse ++
        piecesAfter templated 0 true [] (sourceOf rest) := by
  cases rest with
  | nil => simp [sourceOf, piecesAfter, trimsBefore, text_piece_nothing]
  | cons item rest =>
      have fits := plain item List.mem_cons_self
      rw [source_cons]
      cases item with
      | text content => cases mark
      | tag inside =>
          rw [tag_source]
          exact pieces_before_tag templated layout pending inside _ fits.1 fits.2
      | directive inside =>
          obtain ⟨rfl, closed⟩ := fits
          rw [directive_source, pieces_directive layout pending inside _ closed,
            pieces_directive true [] inside _ closed]
          simp [text_piece_nothing, trimsBefore]

theorem pieces_items (templated layout : Bool) (items : List Item)
    (plain : ∀ item ∈ items, item.Plain templated) (separated : Separated items) :
    piecesAfter templated 0 layout [] (sourceOf items) = itemPieces layout items := by
  induction items generalizing layout with
  | nil => simp [sourceOf, piecesAfter, itemPieces, text_piece_nothing]
  | cons item rest ih =>
      have fits := plain item List.mem_cons_self
      have fitting : ∀ item ∈ rest, item.Plain templated := fun other member =>
        plain other (List.mem_cons_of_mem item member)
      have rests := fun layout => ih layout fitting separated.2
      rw [source_cons]
      cases item with
      | text content =>
          -- The escaped text has no bracket, so all of it waits for the item behind it.
          have angle := Entity.not_mem_escape_chars false content '<' (Or.inl rfl)
          have curly : templated = true → '{' ∉ Entity.escapeChars false content := fun on member =>
            fits.2 on (Entity.mem_escape_chars false content '{' member (by decide))
          rw [Item.source, pieces_run templated layout _ [] _ angle curly,
            pieces_pending templated layout _ rest fitting (separated.1 rfl), rests, itemPieces]
          simp
      | tag inside =>
          rw [tag_source, pieces_tag templated layout [] inside _ fits.1 fits.2, rests, itemPieces]
          simp [text_piece_nothing]
      | directive inside =>
          obtain ⟨rfl, closed⟩ := fits
          rw [directive_source, pieces_directive layout [] inside _ closed, rests, itemPieces]
          simp [text_piece_nothing]

end MarkupTemplate.Scan
