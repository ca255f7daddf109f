/-!
Splitting of texts, at a separating character and before the first occurrence of
a piece of text.
-/

namespace MarkupTemplate

/-- The parts between separators, one more than there are separators. -/
def splitAtChar (separator : Char) : List Char → List (List Char)
  | [] => [[]]
  | c :: rest =>
      if c = separator then [] :: splitAtChar separator rest
      else
        match splitAtChar separator rest with
        | [] => [[c]]
        | part :: parts => (c :: part) :: parts

/-- The text before the first occurrence of a piece, if the piece occurs. -/
def textBefore? (piece : List Char) : List Char → Option (List Char)
  | [] => if piece = [] then some [] else none
  | c :: rest =>
      if piece.isPrefixOf (c :: rest) then some []
      else (textBefore? piece rest).map (c :: ·)

theorem split_at_absent (separator : Char) (part : List Char) (absent : separator ∉ part) :
    splitAtChar separator part = [part] := by
  induction part with
  | nil => rfl
  | cons c part ih =>
      simp only [List.mem_cons, not_or] at absent
      rw [splitAtChar, if_neg (Ne.symm absent.1), ih absent.2]

theorem split_at_separator (separator : Char) (part rest : List Char) (absent : separator ∉ part) :
    splitAtChar separator (part ++ separator :: rest) = part :: splitAtChar separator rest := by
  induction part with
  | nil => rw [List.nil_append, splitAtChar, if_pos rfl]
  | cons c part ih =>
      simp only [List.mem_cons, not_or] at absent
      rw [List.cons_append, splitAtChar, if_neg (Ne.symm absent.1), ih absent.2]

theorem text_before_single (closing : Char) (before rest : List Char) (absent : closing ∉ before) :
    textBefore? [closing] (before ++ closing :: rest) = some before := by
  induction before with
  | nil => simp [textBefore?]
  | cons c before ih =>
      simp only [List.mem_cons, not_or] at absent
      simp [textBefore?, absent.1, ih absent.2]

theorem text_before_begins (piece text before : List Char)
    (found : textBefore? piece text = some before) : before <+: text := by
  induction text generalizing before with
  | nil =>
      rw [textBefore?] at found
      split at found
      · cases found
        exact List.prefix_refl _
      · cases found
  | cons c rest ih =>
      rw [textBefore?] at found
      split at found
      · cases found
        exact List.nil_prefix
      · obtain ⟨before, later, rfl⟩ := Option.map_eq_some_iff.mp found
        exact List.cons_prefix_cons.mpr ⟨rfl, ih before later⟩

theorem split_at_begins (separator : Char) (text first : List Char) (parts : List (List Char))
    (split : splitAtChar separator text = first :: parts) : first <+: text := by
  induction text generalizing first parts with
  | nil =>
      cases split
      exact List.prefix_refl _
  | cons c rest ih =>
      rw [splitAtChar] at split
      by_cases mark : c = separator
      · rw [if_pos mark] at split
        cases split
        exact List.nil_prefix
      · rw [if_neg mark] at split
        cases behind : splitAtChar separator rest with
        | nil =>
            rw [behind] at split
            cases split
            exact List.cons_prefix_cons.mpr ⟨rfl, List.nil_prefix⟩
        | cons next others =>
            rw [behind] at split
            cases split
            exact List.cons_prefix_cons.mpr ⟨rfl, ih next _ behind⟩

end MarkupTemplate
