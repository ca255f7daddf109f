import MarkupTemplate.Text.CodeRange

/-!
Blank characters and the trimming of texts. Blank means the Unicode property
White_Space, twenty-five characters in all. Scanners work on lists of characters, so the
trimming functions do too.
-/

namespace MarkupTemplate

def blankRanges : List CodeRange :=
  [(0x9, 0xD), (0x20, 0x20), (0x85, 0x85), (0xA0, 0xA0), (0x1680, 0x1680), (0x2000, 0x200A),
   (0x2028, 0x2029), (0x202F, 0x202F), (0x205F, 0x205F), (0x3000, 0x3000)]

def isBlank (c : Char) : Bool := inRanges blankRanges c

def trimStart (text : List Char) : List Char := text.dropWhile isBlank

def dropEndWhile (drops : Char → Bool) (text : List Char) : List Char :=
  (text.reverse.dropWhile drops).reverse

def trimEnd (text : List Char) : List Char := dropEndWhile isBlank text

def trim (text : List Char) : List Char := trimEnd (trimStart text)

/-- Removes the blank characters at both ends of a text. -/
def trimText (text : String) : String := String.ofList (trim text.toList)

@[simp] theorem isBlank_space : isBlank ' ' = true := by decide

theorem trim_start_dark (text : List Char) : ∀ c ∈ (trimStart text).head?, isBlank c = false := by
  intro c first
  have stops := List.head?_dropWhile_not isBlank text
  rw [trimStart] at first
  rw [Option.mem_def.mp first] at stops
  simpa using stops

theorem trim_start_split (text : List Char) :
    ∃ blanks, text = blanks ++ trimStart text ∧ ∀ c ∈ blanks, isBlank c = true :=
  ⟨text.takeWhile isBlank, List.takeWhile_append_dropWhile.symm,
    fun c member => List.all_eq_true.mp List.all_takeWhile c member⟩

theorem trim_end_last (text : List Char) (ends : ∀ c ∈ text.getLast?, isBlank c = false) :
    trimEnd text = text := by
  rcases List.eq_nil_or_concat text with rfl | ⟨init, last, rfl⟩
  · rfl
  · have dark : isBlank last = false := ends last (by simp)
    rw [trimEnd, dropEndWhile, List.concat_eq_append, List.reverse_append, List.reverse_singleton,
      List.singleton_append, List.dropWhile_cons_of_neg (by simp [dark])]
    simp

theorem trim_dark_ends (text : List Char) (starts : ∀ c ∈ text.head?, isBlank c = false)
    (ends : ∀ c ∈ text.getLast?, isBlank c = false) : trim text = text := by
  have start : trimStart text = text := by
    cases text with
    | nil => rfl
    | cons first rest =>
        rw [trimStart, List.dropWhile_cons_of_neg (by simp [starts first rfl])]
  rw [trim, start]
  exact trim_end_last text ends

theorem trim_dark (text : List Char) (dark : ∀ c ∈ text, isBlank c = false) : trim text = text :=
  trim_dark_ends text (fun c first => dark c (List.mem_of_mem_head? first)) fun c last =>
    dark c (List.mem_of_getLast? last)

theorem trim_end_append_blank (text blanks : List Char) (blank : ∀ c ∈ blanks, isBlank c = true) :
    trimEnd (text ++ blanks) = trimEnd text := by
  have turned : ∀ c ∈ blanks.reverse, isBlank c = true :=
    fun c member => blank c (List.mem_reverse.mp member)
  rw [trimEnd, dropEndWhile, List.reverse_append, List.dropWhile_append_of_pos turned]
  rfl

theorem trim_append_blank (text blanks : List Char) (blank : ∀ c ∈ blanks, isBlank c = true) :
    trim (text ++ blanks) = trim text := by
  rw [trim, trimStart, List.dropWhile_append]
  split
  · rename_i nothing
    have left : trimStart text = [] := List.isEmpty_iff.mp nothing
    have right : blanks.dropWhile isBlank = [] := by
      rw [← List.append_nil blanks, List.dropWhile_append_of_pos blank]
      rfl
    rw [right, trim, left]
  · exact trim_end_append_blank _ blanks blank

theorem trim_blank_cons (c : Char) (text : List Char) (blank : isBlank c = true) :
    trim (c :: text) = trim text := by
  rw [trim, trimStart, List.dropWhile_cons_of_pos blank]
  rfl

theorem trim_end_append_dark (text rest : List Char) (c : Char) (last : c ∈ text.getLast?)
    (dark : isBlank c = false) : trimEnd (text ++ rest) = text ++ trimEnd rest := by
  have kept : text.reverse.dropWhile isBlank = text.reverse := by
    have whole := trim_end_last text fun other found => by
      rwa [Option.mem_unique found last]
    rw [← List.reverse_inj, List.reverse_reverse]
    exact whole
  simp only [trimEnd, dropEndWhile, List.reverse_append, List.dropWhile_append, kept]
  split
  · rename_i nothing
    simp [List.isEmpty_iff.mp nothing]
  · rw [List.reverse_append, List.reverse_reverse]

theorem trim_end_blank_cons (c : Char) (text : List Char) (blank : isBlank c = true) :
    trimStart (trimEnd (c :: text)) = trimStart (trimEnd text) := by
  simp only [trimEnd, dropEndWhile, List.reverse_cons, List.dropWhile_append]
  split
  · rename_i nothing
    simp [List.isEmpty_iff.mp nothing, blank]
  · rw [List.reverse_append]
    simp [trimStart, blank]

/-- The ends of a text may be trimmed in either order. -/
theorem trim_start_end (text : List Char) : trimStart (trimEnd text) = trim text := by
  induction text with
  | nil => rfl
  | cons c rest ih =>
      cases blank : isBlank c with
      | true => rw [trim_end_blank_cons c rest blank, ih, trim_blank_cons c rest blank]
      | false =>
          have kept := trim_end_append_dark [c] rest c rfl blank
          have starts (text : List Char) : trimStart (c :: text) = c :: text := by
            rw [trimStart, List.dropWhile_cons_of_neg (by simp [blank])]
          rw [trim, starts, ← List.singleton_append, kept, List.singleton_append, starts]

/-- A text is what is left of it without the blanks at its end, and then these blanks. -/
theorem trim_end_split (text : List Char) :
    ∃ blanks, text = trimEnd text ++ blanks ∧ ∀ c ∈ blanks, isBlank c = true := by
  refine ⟨(text.reverse.takeWhile isBlank).reverse, ?_, ?_⟩
  · rw [trimEnd, dropEndWhile, ← List.reverse_append, List.takeWhile_append_dropWhile,
      List.reverse_reverse]
  · intro c member
    exact List.all_eq_true.mp List.all_takeWhile c (List.mem_reverse.mp member)

theorem trim_end_begins (text : List Char) : trimEnd text <+: text := by
  obtain ⟨blanks, whole, _⟩ := trim_end_split text
  exact ⟨blanks, whole.symm⟩

theorem trim_within (text : List Char) : trim text <:+: text := by
  apply List.IsInfix.trans
  · exact (trim_end_begins (trimStart text)).isInfix
  · exact (List.dropWhile_suffix isBlank).isInfix

theorem trim_end_last_dark (text : List Char) (c : Char) (last : c ∈ (trimEnd text).getLast?) :
    isBlank c = false := by
  rw [trimEnd, dropEndWhile, List.getLast?_reverse] at last
  have first := List.head?_dropWhile_not isBlank text.reverse
  rw [Option.mem_def.mp last] at first
  simpa using first

end MarkupTemplate
