import MarkupTemplate.Token.Scan

/-!
Tags and directives as they are printed. A word is a text without blanks and
without certain marks; a tag is a word, a text that follows it, and perhaps a
slash on either side. Reading the tag gives the word and that text back.
-/

namespace MarkupTemplate

/-- A text that is not empty and has neither blanks nor these marks. -/
def IsWord (marks word : List Char) : Prop :=
  word ≠ [] ∧ ∀ c ∈ word, isBlank c = false ∧ c ∉ marks

instance (marks word : List Char) : Decidable (IsWord marks word) :=
  decidable_of_iff (word ≠ [] ∧ word.all (fun c => !isBlank c && !marks.contains c) = true)
    (by simp [IsWord])

/-- The characters that no name of a tag has. -/
def nameMarks : List Char := ['!', '/', '<', '>']

theorem span_word (accepts : Char → Bool) (word rest : List Char)
    (all : ∀ c ∈ word, accepts c = true) (stops : ∀ c ∈ rest.head?, accepts c = false) :
    (word ++ rest).takeWhile accepts = word ∧ (word ++ rest).dropWhile accepts = rest := by
  rw [List.takeWhile_append_of_pos all, List.dropWhile_append_of_pos all]
  cases rest with
  | nil => simp
  | cons c rest => simp [stops c rfl]

namespace Scan

/-- A text that may stand between the name of a tag and its closing bracket. -/
structure Follows (extra : List Char) : Prop where
  begins : ∀ c ∈ extra.head?, isBlank c = true
  ends : ∀ c ∈ extra.getLast?, isBlank c = false ∧ c ≠ '/'
  closed : '>' ∉ extra

/-- Looks at the one character, where the search for an instance could go through all of them. -/
instance decidableFound (holds : Char → Prop) [DecidablePred holds] (found : Option Char) :
    Decidable (∀ c ∈ found, holds c) :=
  Option.decidableForallMem found

instance (extra : List Char) : Decidable (Follows extra) :=
  decidable_of_iff ((∀ c ∈ extra.head?, isBlank c = true) ∧
      (∀ c ∈ extra.getLast?, isBlank c = false ∧ c ≠ '/') ∧ '>' ∉ extra)
    ⟨fun ⟨begins, ends, closed⟩ => ⟨begins, ends, closed⟩,
      fun follows => ⟨follows.begins, follows.ends, follows.closed⟩⟩

theorem follows_nothing : Follows [] := ⟨by simp, by simp, by simp⟩

theorem follows_append (left right : List Char) (first : Follows left) (second : Follows right) :
    Follows (left ++ right) where
  begins := by
    cases left with
    | nil => exact second.begins
    | cons c left => exact first.begins
  ends := by
    rcases List.eq_nil_or_concat right with rfl | ⟨init, last, rfl⟩
    · simpa using first.ends
    · simpa using second.ends
  closed := by
    simp only [List.mem_append, not_or]
    exact ⟨first.closed, second.closed⟩

theorem name_char (name : List Char) (word : IsWord nameMarks name) (c : Char) (member : c ∈ name) :
    isNameChar c = true := by
  obtain ⟨dark, unmarked⟩ := word.2 c member
  simp only [nameMarks, List.mem_cons, not_or] at unmarked
  simp [isNameChar, dark, unmarked]

theorem blank_ends_name (c : Char) (blank : isBlank c = true) : isNameChar c = false := by
  simp [isNameChar, blank]

theorem split_slash_none (extra : List Char) (follows : Follows extra) :
    splitSlash extra = (extra, false) := by
  rw [splitSlash, if_neg]
  intro last
  exact (follows.ends '/' last).2 rfl

theorem split_slash_some (extra : List Char) : splitSlash (extra ++ ['/']) = (extra, true) := by
  simp [splitSlash]

theorem name_head (name rest : List Char) (word : IsWord nameMarks name) :
    (name ++ rest).head? ≠ some '/' ∧ (name ++ rest).head? ≠ some '!' := by
  obtain ⟨some, dark⟩ := word
  cases name with
  | nil => exact (some rfl).elim
  | cons c name =>
      have unmarked := (dark c List.mem_cons_self).2
      simp only [nameMarks, List.mem_cons, not_or] at unmarked
      simp [unmarked]

def openingTag (name extra : List Char) : Token :=
  ⟨.angle, String.ofList name, .opening, String.ofList ('<' :: (name ++ extra) ++ ['>']),
    String.ofList extra⟩

def aloneTag (name extra : List Char) : Token :=
  ⟨.angle, String.ofList name, .alone, String.ofList ('<' :: (name ++ (extra ++ ['/'])) ++ ['>']),
    String.ofList extra⟩

def closingTag (name : List Char) : Token :=
  ⟨.angle, String.ofList name, .closing, String.ofList ('<' :: ('/' :: name) ++ ['>']), ""⟩

-- Reading a tag that begins with its name.
theorem tag_named (name rest extra : List Char) (alone : Bool) (word : IsWord nameMarks name)
    (stops : ∀ c ∈ rest.head?, isNameChar c = false) (split : splitSlash rest = (extra, alone))
    (ends : trimEnd extra = extra) :
    tagOf (name ++ rest) =
      ⟨.angle, String.ofList name, if alone then .alone else .opening,
        String.ofList ('<' :: (name ++ rest) ++ ['>']), String.ofList extra⟩ := by
  have head := (name_head name rest word).1
  have spans := span_word isNameChar name rest (name_char name word) stops
  simp only [tagOf, head, ↓reduceIte, spans.1, spans.2, split, ends, word.1]

theorem tag_opening (name extra : List Char) (word : IsWord nameMarks name)
    (follows : Follows extra) : tagOf (name ++ extra) = openingTag name extra := by
  have ends := trim_end_last extra fun c last => (follows.ends c last).1
  exact tag_named name extra extra false word
    (fun c first => blank_ends_name c (follows.begins c first)) (split_slash_none extra follows) ends

theorem tag_alone (name extra : List Char) (word : IsWord nameMarks name)
    (follows : Follows extra) : tagOf (name ++ (extra ++ ['/'])) = aloneTag name extra := by
  have ends := trim_end_last extra fun c last => (follows.ends c last).1
  refine tag_named name (extra ++ ['/']) extra true word ?_ (split_slash_some extra) ends
  cases extra with
  | nil => simp [isNameChar]
  | cons c extra => exact fun d first => blank_ends_name d (follows.begins d first)

theorem tag_closing (name : List Char) (word : IsWord nameMarks name) :
    tagOf ('/' :: name) = closingTag name := by
  have spans := span_word isNameChar name [] (name_char name word) (by simp)
  rw [List.append_nil] at spans
  simp [tagOf, closingTag, spans, splitSlash, word.1, trimEnd, dropEndWhile]

-- A block directive gives back its name and what follows it.
theorem block_named (position : Position) (inside name extra : List Char)
    (word : IsWord ['}'] name) (begins : ∀ c ∈ extra.head?, isBlank c = true) :
    block position inside (name ++ extra) = directive position inside name extra := by
  have letters : ∀ c ∈ name, isWordChar c = true := by
    intro c member
    obtain ⟨dark, unmarked⟩ := word.2 c member
    simp only [List.mem_singleton] at unmarked
    simp [isWordChar, dark, unmarked]
  have stops : ∀ c ∈ extra.head?, isWordChar c = false := by
    intro c first
    simp [isWordChar, begins c first]
  have spans := span_word isWordChar name extra letters stops
  rw [block, spans.1, spans.2]

end Scan

end MarkupTemplate
