import MarkupTemplate.Proofs.Text.Entity

/-!
References to the ampersand. Three spellings of it are left to the last pass. One with other digits,
such as zeros in front, is decoded by an earlier pass, and then the passes behind that one meet an
ampersand in the text. Main statement: decoding gives the ampersand and the decoded text behind it
exactly where no such pass takes the two for an entity.
-/

namespace MarkupTemplate.Entity

/-- One of the passes takes an ampersand in front of the text for the start of an entity. -/
def Taken : List Substitution → List Char → Prop
  | [], _ => False
  | pass :: later, text => pass ('&' :: text) ≠ none ∨ Taken later (substitute pass text)

instance decidableTaken : (passes : List Substitution) → (text : List Char) →
    Decidable (Taken passes text)
  | [], _ => inferInstanceAs (Decidable False)
  | pass :: later, text =>
      have := decidableTaken later (substitute pass text)
      inferInstanceAs (Decidable (_ ∨ _))

/-- A reference to the ampersand, by its name or by digits with its value. -/
inductive AmpersandReference : List Char → Prop where
  | name : AmpersandReference "&amp;".toList
  | decimal (digits : List Char) : Digits 10 digits → numeralValue 10 digits = '&'.toNat →
      AmpersandReference (decimalReference digits)
  | hexadecimal (digits : List Char) : Digits 16 digits → numeralValue 16 digits = '&'.toNat →
      AmpersandReference (hexadecimalReference digits)

/-- How many passes it takes to decode a reference to the ampersand. -/
def passesNeeded (reference : List Char) : Nat :=
  if reference ∈ plainAmpersands then 6 else if ['&', '#', 'x'] <+: reference then 5 else 4

theorem untaken_kept (passes : List Substitution) (text : List Char)
    (untaken : ¬Taken passes text) : decode passes ('&' :: text) = '&' :: decode passes text := by
  induction passes generalizing text with
  | nil => rfl
  | cons pass later ih =>
      rw [Taken, not_or, not_not] at untaken
      have kept := substitute_kept pass '&' text untaken.1
      exact (congrArg (decode later) kept).trans (ih _ untaken.2)

theorem ampersand_taken (text : List Char) (taken : ampersand ('&' :: text) ≠ none) :
    ∃ body rest, text = body ++ rest ∧ body ≠ [] ∧ '&' ∉ body ∧
      Decodes ampersand ('&' :: body) ['&'] := by
  unfold ampersand at taken
  split at taken
  · rename_i rest same
    cases same
    exact ⟨"amp;".toList, rest, rfl, by decide, by decide, decodes_found _ _ _ fun _ => rfl⟩
  · rename_i rest same
    cases same
    exact ⟨"#38;".toList, rest, rfl, by decide, by decide, decodes_found _ _ _ fun _ => rfl⟩
  · rename_i rest same
    cases same
    exact ⟨"#x26;".toList, rest, rfl, by decide, by decide, decodes_found _ _ _ fun _ => rfl⟩
  · exact absurd rfl taken

theorem reference_taken (base : Nat) (opening spared body : List Char)
    (taken : reference base opening spared body ≠ none) :
    ∃ digits rest, Digits base digits ∧ body = digits ++ ';' :: rest := by
  have whole := List.takeWhile_append_dropWhile (p := isReferenceDigit base) (l := body)
  have digits : ∀ c ∈ body.takeWhile (isReferenceDigit base), isReferenceDigit base c = true :=
    fun c member => List.all_eq_true.mp List.all_takeWhile c member
  dsimp only [reference] at taken
  split at taken
  · exact absurd rfl taken
  · rename_i rest behind filled
    rw [behind] at whole
    exact ⟨_, rest, ⟨filled, digits⟩, whole.symm⟩
  · exact absurd rfl taken

theorem hexadecimal_taken (text : List Char) (taken : hexadecimal ('&' :: text) ≠ none) :
    ∃ digits rest, Digits 16 digits ∧ text = '#' :: 'x' :: (digits ++ ';' :: rest) := by
  unfold hexadecimal at taken
  split at taken
  · rename_i body same
    cases same
    obtain ⟨digits, rest, are, rfl⟩ := reference_taken _ _ _ body taken
    exact ⟨digits, rest, are, rfl⟩
  · exact absurd rfl taken

/-! An entity is longer than what it is decoded to. -/

theorem ampersand_shortens (text : List Char) (taken : ampersand ('&' :: text) ≠ none) :
    (substitute ampersand ('&' :: text)).length < (substitute ampersand text).length + 1 := by
  obtain ⟨body, rest, rfl, filled, absent, decodes⟩ := ampersand_taken text taken
  have plain := decodes_plain ampersand ampersand_ampersands body absent rest
  have positive := List.length_pos_of_ne_nil filled
  rw [← List.cons_append, decodes rest, plain]
  simp only [List.length_append, List.length_cons, List.length_nil]
  omega

theorem ampersand_length (c : Char) (text : List Char) :
    (substitute ampersand (c :: text)).length ≤ (substitute ampersand text).length + 1 := by
  by_cases absent : ampersand (c :: text) = none
  · have kept := substitute_kept ampersand c text absent
    exact Nat.le_of_eq (congrArg List.length kept)
  · by_cases same : c = '&'
    · subst same
      exact Nat.le_of_lt (ampersand_shortens text absent)
    · exact absurd (ampersand_ampersands c text same) absent

theorem hexadecimal_shortens (text : List Char) (taken : hexadecimal ('&' :: text) ≠ none) :
    (decode [hexadecimal, ampersand] ('&' :: text)).length <
      (decode [hexadecimal, ampersand] text).length + 1 := by
  obtain ⟨digits, rest, are, rfl⟩ := hexadecimal_taken text taken
  have unmarked := digits_plain 16 digits are '&' (by decide)
  have absent : '&' ∉ '#' :: 'x' :: (digits ++ [';']) := by simp [unmarked]
  have only : ∀ pass ∈ [hexadecimal, ampersand], OnlyAmpersands pass := by
    simp [hexadecimal_ampersands, ampersand_ampersands]
  have kept := decodes_all_plain [hexadecimal, ampersand] only _ absent rest
  have decoded : (decode [hexadecimal, ampersand] (hexadecimalReference digits ++ rest)).length ≤
      (decode [hexadecimal, ampersand] rest).length + 1 := by
    simp only [decode, List.foldl_cons, List.foldl_nil]
    rw [hexadecimal_decodes digits are rest]
    split
    · rename_i spared
      have last : Decodes ampersand (hexadecimalReference digits) ['&'] :=
        spared ▸ decodes_found _ "#x26;".toList ['&'] fun _ => rfl
      rw [last]
      exact Nat.le_of_eq rfl
    · exact ampersand_length _ _
  have split : '#' :: 'x' :: (digits ++ ';' :: rest) =
      '#' :: 'x' :: (digits ++ [';']) ++ rest := by simp
  rw [split, kept, ← List.cons_append]
  refine Nat.lt_of_le_of_lt decoded ?_
  simp only [List.length_append, List.length_cons]
  omega

/-! Behind an ampersand that one of the last two passes takes, a text is not decoded as before. -/

theorem ampersand_kept_iff (text : List Char) :
    decode [ampersand] ('&' :: text) = '&' :: decode [ampersand] text ↔
      ¬Taken [ampersand] text := by
  constructor
  · rintro same (taken | none)
    · exact Nat.ne_of_lt (ampersand_shortens text taken) (congrArg List.length same)
    · exact none
  · exact untaken_kept [ampersand] text

theorem hexadecimal_kept_iff (text : List Char) :
    decode [hexadecimal, ampersand] ('&' :: text) =
        '&' :: decode [hexadecimal, ampersand] text ↔
      ¬Taken [hexadecimal, ampersand] text := by
  constructor
  · rintro same taken
    by_cases early : hexadecimal ('&' :: text) = none
    · have kept := substitute_kept hexadecimal '&' text early
      have late := taken.resolve_left (not_not.mpr early)
      exact (ampersand_kept_iff _).mp ((congrArg (decode [ampersand]) kept).symm.trans same) late
    · exact Nat.ne_of_lt (hexadecimal_shortens text early) (congrArg List.length same)
  · exact untaken_kept [hexadecimal, ampersand] text

theorem decimal_not_hexadecimal (digits : List Char) (are : Digits 10 digits) :
    ¬['&', '#', 'x'] <+: decimalReference digits := by
  cases digits with
  | nil => exact absurd rfl are.1
  | cons digit digits =>
      have other : 'x' ≠ digit := by
        rintro rfl
        exact absurd (are.2 'x' List.mem_cons_self) (by decide)
      simp [decimalReference, other]

theorem decimal_needed (digits : List Char) (are : Digits 10 digits)
    (value : numeralValue 10 digits = '&'.toNat)
    (other : decimalReference digits ∉ plainAmpersands) :
    passesNeeded (decimalReference digits) = 4 ∧
      DecodesAll (names ++ [decimal]) (decimalReference digits) ['&'] := by
  have unspared : digits ≠ ['3', '8'] := by
    rintro rfl
    exact other (by decide)
  constructor
  · rw [passesNeeded, if_neg other, if_neg (decimal_not_hexadecimal digits are)]
  · exact decimal_character digits are '&' value unspared

theorem hexadecimal_needed (digits : List Char) (are : Digits 16 digits)
    (value : numeralValue 16 digits = '&'.toNat)
    (other : hexadecimalReference digits ∉ plainAmpersands) :
    passesNeeded (hexadecimalReference digits) = 5 ∧
      DecodesAll (names ++ [decimal, hexadecimal]) (hexadecimalReference digits) ['&'] := by
  have unspared : digits ≠ ['2', '6'] := by
    rintro rfl
    exact other (by decide)
  have marked : ['&', '#', 'x'] <+: hexadecimalReference digits := by
    simp [hexadecimalReference]
  constructor
  · rw [passesNeeded, if_neg other, if_pos marked]
  · exact hexadecimal_character digits are '&' value unspared

/-- A reference to the ampersand is decoded apart from the text behind it exactly where none of the
passes that follow takes the ampersand for the start of an entity. None follows for the three plain
spellings. -/
theorem ampersand_apart_iff (reference text : String)
    (is : AmpersandReference reference.toList) :
    unescape (reference ++ text) = "&" ++ unescape text ↔
      ¬Taken (passes.drop (passesNeeded reference.toList))
        (decode (passes.take (passesNeeded reference.toList)) text.toList) := by
  have chars : unescape (reference ++ text) = "&" ++ unescape text ↔
      unescapeChars (reference.toList ++ text.toList) = '&' :: unescapeChars text.toList := by
    rw [← String.toList_inj]
    simp [unescape]
  rw [chars]
  generalize reference.toList = written at is
  generalize text.toList = rest
  by_cases plain : written ∈ plainAmpersands
  · have needed : passesNeeded written = 6 := if_pos plain
    rw [needed]
    exact iff_of_true (unescape_ampersand written plain rest) id
  · cases is with
    | name => exact absurd (by decide) plain
    | decimal digits are value =>
        obtain ⟨needed, decoded⟩ := decimal_needed digits are value plain
        have whole : unescapeChars (decimalReference digits ++ rest) =
            decode [hexadecimal, ampersand] ('&' :: decode (names ++ [decimal]) rest) :=
          congrArg (decode [hexadecimal, ampersand]) (decoded rest)
        rw [needed, whole]
        exact hexadecimal_kept_iff _
    | hexadecimal digits are value =>
        obtain ⟨needed, decoded⟩ := hexadecimal_needed digits are value plain
        have whole : unescapeChars (hexadecimalReference digits ++ rest) =
            decode [ampersand] ('&' :: decode (names ++ [decimal, hexadecimal]) rest) :=
          congrArg (decode [ampersand]) (decoded rest)
        rw [needed, whole]
        exact ampersand_kept_iff _

theorem padded_reference : AmpersandReference "&#038;".toList :=
  .decimal ['0', '3', '8'] (by decide) (by decide)

theorem ampersand_apart_iff_named :
    AmpersandReference "&#038;".toList ∧ unescape ("&#038;" ++ "lt;") = "&" ++ unescape "lt;" := by
  have apart := ampersand_apart_iff "&#038;" "lt;" padded_reference
  exact ⟨padded_reference, apart.mpr (by decide)⟩

/-- Zeros in front of the digits let the ampersand start an entity with what follows. -/
theorem padded_ampersand_rejoined :
    AmpersandReference "&#038;".toList ∧ unescape ("&#038;" ++ "#x3c;") = "<" ∧
      "&" ++ unescape "#x3c;" = "&#x3c;" :=
  ⟨padded_reference, by decide, by decide⟩

end MarkupTemplate.Entity
