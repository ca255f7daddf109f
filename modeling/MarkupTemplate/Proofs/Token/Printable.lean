import MarkupTemplate.Proofs.Token.Items

/-!
Rows of items that reading takes apart as they were put together. Trimming
takes a line break off a text only at its ends, so a text without line breaks
there stays as it is, whatever stands beside it. Main statement: such a row is
tokenized into one piece for every item.
-/

namespace MarkupTemplate.Scan

def Item.piece : Item → Piece
  | .text content => .text (String.ofList content)
  | .tag inside => .token (tagOf inside)
  | .directive inside => .token (directiveOf inside)

/-- The text begins with a line break, perhaps indented. -/
def StartsWithBreak (text : List Char) : Prop :=
  ∃ indent rest, (∀ c ∈ indent, isIndent c = true) ∧
    (text = indent ++ '\n' :: rest ∨ text = indent ++ '\r' :: '\n' :: rest)

def EndsWithBreak (text : List Char) : Prop :=
  ∃ rest indent, (∀ c ∈ indent, isIndent c = true) ∧ text = rest ++ '\n' :: indent

theorem trim_start_unbroken (text : List Char) (unbroken : ¬ StartsWithBreak text) :
    trimBreakStart text = text := by
  have whole : text.takeWhile isIndent ++ dropIndent text = text := List.takeWhile_append_dropWhile
  have indented : ∀ c ∈ text.takeWhile isIndent, isIndent c = true :=
    fun c member => List.all_eq_true.mp List.all_takeWhile c member
  unfold trimBreakStart
  split
  · rename_i rest behind
    rw [behind] at whole
    exact (unbroken ⟨_, rest, indented, Or.inl whole.symm⟩).elim
  · rename_i rest behind
    rw [behind] at whole
    exact (unbroken ⟨_, rest, indented, Or.inr whole.symm⟩).elim
  · rfl

theorem trim_end_unbroken (text : List Char) (unbroken : ¬ EndsWithBreak text) :
    trimBreakEnd text = text := by
  have whole : text.reverse.takeWhile isIndent ++ dropIndent text.reverse = text.reverse :=
    List.takeWhile_append_dropWhile
  have broken : ∀ rest, dropIndent text.reverse ≠ '\n' :: rest := by
    intro rest behind
    rw [behind] at whole
    refine unbroken ⟨rest.reverse, (text.reverse.takeWhile isIndent).reverse, ?_, ?_⟩
    · intro c member
      exact List.all_eq_true.mp List.all_takeWhile c (List.mem_reverse.mp member)
    · have turned := congrArg List.reverse whole
      simpa using turned.symm
  unfold trimBreakEnd
  split
  · rename_i rest behind
    exact (broken _ behind).elim
  · rename_i rest behind
    exact (broken _ behind).elim
  · rfl

theorem unbroken_line (text : List Char) (line : '\n' ∉ text) :
    ¬ StartsWithBreak text ∧ ¬ EndsWithBreak text := by
  constructor
  · rintro ⟨indent, rest, _, rfl | rfl⟩ <;> simp at line
  · rintro ⟨rest, indent, _, rfl⟩
    simp at line

theorem text_piece_unbroken (trimsStart trimsEnd : Bool) (content : List Char)
    (filled : content ≠ []) (start : ¬ StartsWithBreak content) (finish : ¬ EndsWithBreak content) :
    textPiece trimsStart trimsEnd (Entity.escapeChars false content) =
      [.text (String.ofList content)] := by
  have first := trim_start_unbroken content start
  have last := trim_end_unbroken content finish
  rw [textPiece, Entity.unescape_escape_chars]
  cases trimsStart <;> cases trimsEnd <;> simp [first, last, filled]

/-- No text has a line break that trimming could take. -/
def Item.Unbroken : Item → Prop
  | .text content => ¬ StartsWithBreak content ∧ ¬ EndsWithBreak content
  | _ => True

theorem item_pieces_unbroken (templated layout : Bool) (items : List Item)
    (plain : ∀ item ∈ items, item.Plain templated) (unbroken : ∀ item ∈ items, item.Unbroken) :
    itemPieces layout items = items.map Item.piece := by
  induction items generalizing layout with
  | nil => rfl
  | cons item rest ih =>
      have rests := fun layout => ih layout
        (fun other member => plain other (List.mem_cons_of_mem item member))
        (fun other member => unbroken other (List.mem_cons_of_mem item member))
      cases item with
      | text content =>
          have filled := (plain (.text content) List.mem_cons_self).1
          obtain ⟨start, finish⟩ := unbroken (.text content) List.mem_cons_self
          rw [itemPieces, rests, text_piece_unbroken layout _ content filled start finish]
          rfl
      | tag inside =>
          rw [itemPieces, rests]
          rfl
      | directive inside =>
          rw [itemPieces, rests]
          rfl

/-- A row of items that reading takes apart as it was put together. -/
structure Printable (templated : Bool) (items : List Item) : Prop where
  plain : ∀ item ∈ items, item.Plain templated
  unbroken : ∀ item ∈ items, item.Unbroken
  separated : Separated items

theorem printable_nil (templated : Bool) : Printable templated [] := ⟨by simp, by simp, trivial⟩

theorem printable_text (templated : Bool) (content : List Char) (rest : List Item)
    (plain : (Item.text content).Plain templated) (unbroken : (Item.text content).Unbroken)
    (mark : startsWithText rest = false) (printable : Printable templated rest) :
    Printable templated (.text content :: rest) where
  plain := List.forall_mem_cons.mpr ⟨plain, printable.plain⟩
  unbroken := List.forall_mem_cons.mpr ⟨unbroken, printable.unbroken⟩
  separated := ⟨fun _ => mark, printable.separated⟩

theorem printable_tag (templated : Bool) (inside : List Char) (rest : List Item)
    (plain : (Item.tag inside).Plain templated) (printable : Printable templated rest) :
    Printable templated (.tag inside :: rest) where
  plain := List.forall_mem_cons.mpr ⟨plain, printable.plain⟩
  unbroken := List.forall_mem_cons.mpr ⟨trivial, printable.unbroken⟩
  separated := ⟨fun text => (by cases text), printable.separated⟩

theorem printable_directive (inside : List Char) (rest : List Item) (closed : '}' ∉ inside)
    (printable : Printable true rest) : Printable true (.directive inside :: rest) where
  plain := List.forall_mem_cons.mpr ⟨⟨rfl, closed⟩, printable.plain⟩
  unbroken := List.forall_mem_cons.mpr ⟨trivial, printable.unbroken⟩
  separated := ⟨fun text => (by cases text), printable.separated⟩

theorem printable_rest (templated : Bool) (item : Item) (rest : List Item)
    (printable : Printable templated (item :: rest)) : Printable templated rest where
  plain := fun other member => printable.plain other (List.mem_cons_of_mem item member)
  unbroken := fun other member => printable.unbroken other (List.mem_cons_of_mem item member)
  separated := printable.separated.2

theorem separated_append (left right : List Item) (first : Separated left)
    (second : Separated right) (mark : startsWithText right = false) :
    Separated (left ++ right) := by
  induction left with
  | nil => exact second
  | cons item left ih =>
      refine ⟨fun text => ?_, ih first.2⟩
      cases left with
      | nil => exact mark
      | cons next left => exact first.1 text

theorem printable_append (templated : Bool) (left right : List Item)
    (first : Printable templated left) (second : Printable templated right)
    (mark : startsWithText right = false) : Printable templated (left ++ right) where
  plain := List.forall_mem_append.mpr ⟨first.plain, second.plain⟩
  unbroken := List.forall_mem_append.mpr ⟨first.unbroken, second.unbroken⟩
  separated := separated_append left right first.separated second.separated mark

theorem plain_named (templated : Bool) (name rest : List Char) (word : IsWord nameMarks name)
    (closed : '>' ∉ rest) : (Item.tag (name ++ rest)).Plain templated := by
  refine ⟨?_, (name_head name rest word).2⟩
  simp only [List.mem_append, not_or]
  exact ⟨fun member => (word.2 '>' member).2 (by decide), closed⟩

theorem plain_closing (templated : Bool) (name : List Char) (word : IsWord nameMarks name) :
    (Item.tag ('/' :: name)).Plain templated := by
  refine ⟨?_, by simp⟩
  simp only [List.mem_cons, not_or]
  exact ⟨by decide, fun member => (word.2 '>' member).2 (by decide)⟩

theorem tokenize_items (templated : Bool) (source : String) (items : List Item)
    (printed : source.toList = sourceOf items) (printable : Printable templated items) :
    tokenize templated source = items.map Item.piece := by
  rw [tokenize, printed, pieces_items templated true items printable.plain printable.separated,
    item_pieces_unbroken templated true items printable.plain printable.unbroken]

end MarkupTemplate.Scan
