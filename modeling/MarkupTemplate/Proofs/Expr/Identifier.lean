import MarkupTemplate.Expr.Token

/-!
Identifiers: a letter or an underscore, and then letters, numerals and
underscores. None of these characters is blank, so an identifier survives trimming.
-/

namespace MarkupTemplate.Expr

/-- A name of one token. -/
def IsIdentifier : List Char → Prop
  | [] => False
  | first :: rest => isIdentifierStart first = true ∧ ∀ c ∈ rest, isIdentifierPart c = true

instance decidableIdentifier : (name : List Char) → Decidable (IsIdentifier name)
  | [] => inferInstanceAs (Decidable False)
  | first :: rest =>
      decidable_of_iff (isIdentifierStart first = true ∧ rest.all isIdentifierPart = true)
        (by simp [IsIdentifier])

/-- The code points of the characters that identifiers are made of. -/
def identifierRanges : List CodeRange :=
  (0x30, 0x39) :: (0x41, 0x5A) :: (0x5F, 0x5F) :: (0x61, 0x7A) :: (letterRanges ++ numeralRanges)

theorem ranges_of_part (c : Char) (part : isIdentifierPart c = true) :
    inRanges identifierRanges c = true := by
  simp only [isIdentifierPart, isLetterOrNumeral, isLetter, isNumeral, Bool.or_eq_true,
    beq_iff_eq] at part
  rw [inRanges_iff]
  rcases part with (letter | numeral) | rfl
  · split at letter
    · rcases code_of_isAlpha c letter with upper | lower
      · exact ⟨(0x41, 0x5A), by simp [identifierRanges], upper⟩
      · exact ⟨(0x61, 0x7A), by simp [identifierRanges], lower⟩
    · obtain ⟨range, member, inside⟩ := (inRanges_iff letterRanges c).mp letter
      exact ⟨range, by simp [identifierRanges, member], inside⟩
  · split at numeral
    · exact ⟨(0x30, 0x39), by simp [identifierRanges], code_of_isDigit c numeral⟩
    · obtain ⟨range, member, inside⟩ := (inRanges_iff numeralRanges c).mp numeral
      exact ⟨range, by simp [identifierRanges, member], inside⟩
  · exact ⟨(0x5F, 0x5F), by simp [identifierRanges], by decide⟩

theorem part_not_blank (c : Char) (part : isIdentifierPart c = true) : isBlank c = false :=
  apart_outside identifierRanges blankRanges (by decide +kernel) c (ranges_of_part c part)

theorem part_not_closing (c : Char) (part : isIdentifierPart c = true) : c ≠ '}' := by
  rintro rfl
  revert part
  decide +kernel

theorem identifier_parts (name : List Char) (identifier : IsIdentifier name) :
    ∀ c ∈ name, isIdentifierPart c = true := by
  cases name with
  | nil => exact identifier.elim
  | cons first rest =>
      obtain ⟨start, parts⟩ := identifier
      intro c member
      rcases List.mem_cons.mp member with rfl | member
      · simp only [isIdentifierStart, Bool.or_eq_true] at start
        rcases start with letter | underscore
        · simp [isIdentifierPart, isLetterOrNumeral, letter]
        · simp [isIdentifierPart, underscore]
      · exact parts c member

theorem trim_identifier (name : List Char) (identifier : IsIdentifier name) : trim name = name :=
  trim_dark name fun c member => part_not_blank c (identifier_parts name identifier c member)

end MarkupTemplate.Expr
