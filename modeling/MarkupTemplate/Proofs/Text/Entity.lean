import MarkupTemplate.Proofs.Text.Numeral
import MarkupTemplate.Text.Entity
import Mathlib.Data.List.Forall2
import Mathlib.Tactic.SplitIfs

/-!
Decoding undoes encoding. A pass begins at an ampersand and reads no further than to the semicolon
behind it, so that a reference is decoded on its own, whatever follows. Main statement: a text may
be written in any way, each of its characters as it is, by its name or by its number, and decoding
gives the text back.
-/

namespace MarkupTemplate.Entity

/-- A rule that leaves everything but ampersands alone. -/
def OnlyAmpersands (rule : Substitution) : Prop := ∀ c rest, c ≠ '&' → rule (c :: rest) = none

theorem named_ampersands (name : List Char) (letter : Char) :
    OnlyAmpersands (named name letter) := by
  intro c rest plain
  unfold named
  split <;> simp_all

theorem decimal_ampersands : OnlyAmpersands decimal := by
  intro c rest plain
  unfold decimal
  split <;> simp_all

theorem hexadecimal_ampersands : OnlyAmpersands hexadecimal := by
  intro c rest plain
  unfold hexadecimal
  split <;> simp_all

theorem ampersand_ampersands : OnlyAmpersands ampersand := by
  intro c rest plain
  unfold ampersand
  split <;> simp_all

theorem passes_ampersands : ∀ pass ∈ passes, OnlyAmpersands pass := by
  simp [passes, names, named_ampersands, decimal_ampersands, hexadecimal_ampersands,
    ampersand_ampersands]

/-- A pass turns one piece of a text into another, whatever follows. -/
def Decodes (rule : Substitution) (before after : List Char) : Prop :=
  ∀ rest, substitute rule (before ++ rest) = after ++ substitute rule rest

theorem decodes_plain (rule : Substitution) (only : OnlyAmpersands rule) (plain : List Char)
    (absent : '&' ∉ plain) : Decodes rule plain plain := by
  intro rest
  induction plain with
  | nil => rfl
  | cons c plain ih =>
      simp only [List.mem_cons, not_or] at absent
      have kept := substitute_kept rule c (plain ++ rest) (only c _ (Ne.symm absent.1))
      rw [List.cons_append, kept, ih absent.2, List.cons_append]

theorem decodes_found (rule : Substitution) (body replacement : List Char)
    (found : ∀ rest, rule ('&' :: (body ++ rest)) = some (replacement, body.length)) :
    Decodes rule ('&' :: body) replacement := by
  intro rest
  rw [List.cons_append, substitute_found rule '&' _ replacement body.length (found rest),
    List.drop_left]

theorem decodes_kept (rule : Substitution) (only : OnlyAmpersands rule) (body : List Char)
    (absent : '&' ∉ body) (blind : ∀ rest, rule ('&' :: (body ++ rest)) = none) :
    Decodes rule ('&' :: body) ('&' :: body) := by
  intro rest
  rw [List.cons_append, substitute_kept rule '&' _ (blind rest),
    decodes_plain rule only body absent rest, List.cons_append]

/-- Passes one after another turn one piece of a text into another, whatever follows. -/
def DecodesAll (passes : List Substitution) (before after : List Char) : Prop :=
  ∀ rest, decode passes (before ++ rest) = after ++ decode passes rest

theorem decodes_none (piece : List Char) : DecodesAll [] piece piece := fun _ => rfl

theorem decodes_first {pass : Substitution} {later : List Substitution}
    {first second last : List Char} (here : Decodes pass first second)
    (behind : DecodesAll later second last) : DecodesAll (pass :: later) first last := by
  intro rest
  exact (congrArg (decode later) (here rest)).trans (behind _)

theorem decodes_append {earlier later : List Substitution} {first second last : List Char}
    (here : DecodesAll earlier first second) (behind : DecodesAll later second last) :
    DecodesAll (earlier ++ later) first last := by
  intro rest
  simp only [decode, List.foldl_append]
  exact (congrArg (decode later) (here rest)).trans (behind _)

theorem decodes_each (passes : List Substitution) (piece : List Char)
    (kept : ∀ pass ∈ passes, Decodes pass piece piece) : DecodesAll passes piece piece := by
  induction passes with
  | nil => exact decodes_none piece
  | cons pass passes ih =>
      have others := ih fun other member => kept other (List.mem_cons_of_mem pass member)
      exact decodes_first (kept pass List.mem_cons_self) others

theorem decodes_all_plain (passes : List Substitution)
    (only : ∀ pass ∈ passes, OnlyAmpersands pass) (plain : List Char) (absent : '&' ∉ plain) :
    DecodesAll passes plain plain :=
  decodes_each passes plain fun pass member => decodes_plain pass (only pass member) plain absent

-- What some passes decode to a character is plain to the later ones, the ampersand apart.
theorem unescape_at (earlier later : List Substitution) (whole : passes = earlier ++ later)
    (piece : List Char) (c : Char) (plain : c ≠ '&') (here : DecodesAll earlier piece [c])
    (rest : List Char) : unescapeChars (piece ++ rest) = [c] ++ unescapeChars rest := by
  have only : ∀ other ∈ later, OnlyAmpersands other := fun other member =>
    passes_ampersands other (whole ▸ List.mem_append_right _ member)
  have behind := decodes_all_plain later only [c] (by simpa using Ne.symm plain)
  have all := decodes_append here behind
  rw [← whole] at all
  exact all rest

theorem unescape_plain (c : Char) (plain : c ≠ '&') (rest : List Char) :
    unescapeChars ([c] ++ rest) = [c] ++ unescapeChars rest :=
  decodes_all_plain passes passes_ampersands [c] (by simpa using Ne.symm plain) rest

theorem named_found (name : List Char) (c : Char) : Decodes (named name c) ('&' :: name) [c] := by
  apply decodes_found
  intro rest
  have begins : name.isPrefixOf (name ++ rest) = true := by simp
  rw [named, if_pos begins]

-- The first letter tells the names from each other and from everything else.
theorem named_past (first other : Char) (name body : List Char) (c : Char) (apart : first ≠ other)
    (absent : '&' ∉ other :: body) :
    Decodes (named (first :: name) c) ('&' :: other :: body) ('&' :: other :: body) := by
  apply decodes_kept _ (named_ampersands _ _) _ absent
  intro rest
  simp [named, apart]

theorem names_past (other : Char) (body : List Char) (apart : other ∉ "lgq".toList)
    (absent : '&' ∉ other :: body) :
    ∀ pass ∈ names, Decodes pass ('&' :: other :: body) ('&' :: other :: body) := by
  simp only [String.reduceToList, List.mem_cons, not_or] at apart
  have less := named_past 'l' other ['t', ';'] body '<' (Ne.symm apart.1) absent
  have greater := named_past 'g' other ['t', ';'] body '>' (Ne.symm apart.2.1) absent
  have quote := named_past 'q' other ['u', 'o', 't', ';'] body '"' (Ne.symm apart.2.2.1) absent
  exact List.forall_mem_cons.mpr
    ⟨less, List.forall_mem_cons.mpr ⟨greater, List.forall_mem_singleton.mpr quote⟩⟩

theorem unescape_named (earlier later : List Substitution) (name : List Char) (c : Char)
    (whole : names = earlier ++ named name c :: later) (plain : c ≠ '&')
    (kept : ∀ other ∈ earlier, Decodes other ('&' :: name) ('&' :: name)) (rest : List Char) :
    unescapeChars ('&' :: name ++ rest) = [c] ++ unescapeChars rest := by
  have split : passes =
      (earlier ++ [named name c]) ++ (later ++ [decimal, hexadecimal, ampersand]) := by
    simp [passes, whole]
  have here := decodes_append (decodes_each earlier _ kept)
    (decodes_first (named_found name c) (decodes_none [c]))
  exact unescape_at _ _ split ('&' :: name) c plain here rest

/-- The digits of a numeric reference. -/
def Digits (base : Nat) (digits : List Char) : Prop :=
  digits ≠ [] ∧ ∀ c ∈ digits, isReferenceDigit base c = true

instance (base : Nat) (digits : List Char) : Decidable (Digits base digits) :=
  decidable_of_iff (digits ≠ [] ∧ digits.all (isReferenceDigit base) = true) (by simp [Digits])

/-- The reference with these digits. -/
def decimalReference (digits : List Char) : List Char := '&' :: '#' :: (digits ++ [';'])

def hexadecimalReference (digits : List Char) : List Char := '&' :: '#' :: 'x' :: (digits ++ [';'])

theorem numeral_reference (base number : Nat) (several : 1 < base) (few : base ≤ 16) :
    Digits base (numeral base number) := by
  refine ⟨Nat.toDigits_ne_nil, fun c member => ?_⟩
  have digit := numeral_digit_in base several few number c member
  simp [isReferenceDigit, digit]

theorem digits_plain (base : Nat) (digits : List Char) (are : Digits base digits) (c : Char)
    (other : digitOf c = none) : c ∉ digits := by
  intro member
  have digit := are.2 c member
  simp [isReferenceDigit, isDigitIn, digitIn, other] at digit

/-- A pass over numbers decodes a reference up to its semicolon, but for one spelling. -/
theorem reference_read (base : Nat) (opening spared digits rest : List Char)
    (are : Digits base digits) :
    reference base opening spared (digits ++ ';' :: rest) =
      some (if digits = spared then opening ++ digits ++ [';']
        else [characterOf (numeralValue base digits)], opening.length + digits.length) := by
  have semicolon : isReferenceDigit base ';' = false := by
    have none : digitOf ';' = none := by decide
    simp [isReferenceDigit, isDigitIn, digitIn, none]
  have taken : (digits ++ ';' :: rest).takeWhile (isReferenceDigit base) = digits := by
    rw [List.takeWhile_append_of_pos are.2, List.takeWhile_cons, semicolon]
    simp
  have left : (digits ++ ';' :: rest).dropWhile (isReferenceDigit base) = ';' :: rest := by
    rw [List.dropWhile_append_of_pos are.2, List.dropWhile_cons, semicolon]
    simp
  rw [reference, taken, left]
  cases digits with
  | nil => exact absurd rfl are.1
  | cons digit digits => rfl

theorem decimal_decodes (digits : List Char) (are : Digits 10 digits) :
    Decodes decimal (decimalReference digits)
      (if digits = ['3', '8'] then decimalReference digits
        else [characterOf (numeralValue 10 digits)]) := by
  apply decodes_found
  intro rest
  have read := reference_read 10 ['&', '#'] ['3', '8'] digits rest are
  simpa [decimal, decimalReference, Nat.add_comm 2] using read

theorem hexadecimal_decodes (digits : List Char) (are : Digits 16 digits) :
    Decodes hexadecimal (hexadecimalReference digits)
      (if digits = ['2', '6'] then hexadecimalReference digits
        else [characterOf (numeralValue 16 digits)]) := by
  apply decodes_found
  intro rest
  have read := reference_read 16 ['&', '#', 'x'] ['2', '6'] digits rest are
  simpa [hexadecimal, hexadecimalReference, Nat.add_comm 3] using read

-- The passes over names leave all numbers alone, and the one over decimals the hexadecimal ones.
theorem names_kept (body : List Char) (absent : '&' ∉ body) :
    ∀ pass ∈ names, Decodes pass ('&' :: '#' :: body) ('&' :: '#' :: body) :=
  names_past '#' body (by decide) (by simp [absent])

theorem decimal_kept (body : List Char) (absent : '&' ∉ body) :
    Decodes decimal ('&' :: '#' :: 'x' :: body) ('&' :: '#' :: 'x' :: body) :=
  decodes_kept decimal decimal_ampersands ('#' :: 'x' :: body) (by simp [absent]) fun _ => rfl

/-- The references to the ampersand that only the last pass decodes. -/
def plainAmpersands : List (List Char) := ["&amp;".toList, "&#38;".toList, "&#x26;".toList]

theorem plain_ampersand_kept (reference : List Char) (is : reference ∈ plainAmpersands) :
    (∀ pass ∈ names, Decodes pass reference reference) ∧ Decodes decimal reference reference ∧
      Decodes hexadecimal reference reference := by
  rcases List.mem_cons.mp is with rfl | is
  · exact ⟨names_past 'a' "mp;".toList (by decide) (by decide),
      decodes_kept _ decimal_ampersands "amp;".toList (by decide) fun _ => rfl,
      decodes_kept _ hexadecimal_ampersands "amp;".toList (by decide) fun _ => rfl⟩
  rcases List.mem_cons.mp is with rfl | is
  · have digits : Digits 10 ['3', '8'] := by decide
    exact ⟨names_kept "38;".toList (by decide), decimal_decodes _ digits,
      decodes_kept _ hexadecimal_ampersands "#38;".toList (by decide) fun _ => rfl⟩
  · rw [List.mem_singleton.mp is]
    have digits : Digits 16 ['2', '6'] := by decide
    exact ⟨names_kept "x26;".toList (by decide), decimal_kept "26;".toList (by decide),
      hexadecimal_decodes _ digits⟩

theorem unescape_ampersand (reference : List Char) (is : reference ∈ plainAmpersands)
    (rest : List Char) : unescapeChars (reference ++ rest) = ['&'] ++ unescapeChars rest := by
  have last : Decodes ampersand reference ['&'] := by
    rcases List.mem_cons.mp is with rfl | is
    · exact decodes_found _ "amp;".toList ['&'] fun _ => rfl
    rcases List.mem_cons.mp is with rfl | is
    · exact decodes_found _ "#38;".toList ['&'] fun _ => rfl
    · rw [List.mem_singleton.mp is]
      exact decodes_found _ "#x26;".toList ['&'] fun _ => rfl
  obtain ⟨unnamed, decimals, hexadecimals⟩ := plain_ampersand_kept reference is
  have behind : DecodesAll [decimal, hexadecimal, ampersand] reference ['&'] :=
    decodes_first decimals (decodes_first hexadecimals
      (decodes_first last (decodes_none ['&'])))
  exact decodes_append (decodes_each names reference unnamed) behind rest

/-- The ways to write a character: as it is, by its name, or by its number. -/
inductive Spelled : Char → List Char → Prop where
  | plain (c : Char) : c ≠ '&' → Spelled c [c]
  | less : Spelled '<' "&lt;".toList
  | greater : Spelled '>' "&gt;".toList
  | quote : Spelled '"' "&quot;".toList
  | ampersand : Spelled '&' "&amp;".toList
  | decimal (c : Char) : Spelled c (decimalReference (numeral 10 c.toNat))
  | hexadecimal (c : Char) : Spelled c (hexadecimalReference (numeral 16 c.toNat))

theorem character_of_code (c : Char) : characterOf c.toNat = c := by
  have valid : c.toNat.isValidChar := c.valid
  rw [characterOf, if_pos valid, Char.ofNat_toNat]

-- Of the characters only the ampersand has a numeral with the value of the spared one.
theorem numeral_not_spared (base : Nat) (several : 1 < base) (few : base ≤ 16) (c : Char)
    (other : c ≠ '&') (spared : List Char) (same : numeralValue base spared = '&'.toNat) :
    numeral base c.toNat ≠ spared := by
  intro written
  have value := numeral_value base several few c.toNat
  rw [written, same] at value
  exact other (Char.toNat_inj.mp value.symm)

/-- The digits of a reference are decoded to the character with their value. -/
theorem decimal_character (digits : List Char) (are : Digits 10 digits) (c : Char)
    (value : numeralValue 10 digits = c.toNat) (unspared : digits ≠ ['3', '8']) :
    DecodesAll (names ++ [decimal]) (decimalReference digits) [c] := by
  have unmarked := digits_plain 10 digits are '&' (by decide)
  have unnamed := names_kept (digits ++ [';']) (by simp [unmarked])
  have read := decimal_decodes digits are
  rw [if_neg unspared, value, character_of_code] at read
  exact decodes_append (decodes_each names _ unnamed) (decodes_first read (decodes_none [c]))

theorem hexadecimal_character (digits : List Char) (are : Digits 16 digits) (c : Char)
    (value : numeralValue 16 digits = c.toNat) (unspared : digits ≠ ['2', '6']) :
    DecodesAll (names ++ [decimal, hexadecimal]) (hexadecimalReference digits) [c] := by
  have unmarked := digits_plain 16 digits are '&' (by decide)
  have unnamed := names_kept ('x' :: (digits ++ [';'])) (by simp [unmarked])
  have kept := decimal_kept (digits ++ [';']) (by simp [unmarked])
  have read := hexadecimal_decodes digits are
  rw [if_neg unspared, value, character_of_code] at read
  exact decodes_append (decodes_each names _ unnamed)
    (decodes_first kept (decodes_first read (decodes_none [c])))

theorem unescape_decimal (c : Char) (rest : List Char) :
    unescapeChars (decimalReference (numeral 10 c.toNat) ++ rest) = [c] ++ unescapeChars rest := by
  by_cases same : c = '&'
  · subst same
    exact unescape_ampersand _ (by decide) rest
  · have digits := numeral_reference 10 c.toNat (by decide) (by decide)
    have value := numeral_value 10 (by decide) (by decide) c.toNat
    have other := numeral_not_spared 10 (by decide) (by decide) c same ['3', '8'] (by decide)
    have here := decimal_character _ digits c value other
    exact unescape_at _ [hexadecimal, ampersand] rfl _ c same here rest

theorem unescape_hexadecimal (c : Char) (rest : List Char) :
    unescapeChars (hexadecimalReference (numeral 16 c.toNat) ++ rest) =
      [c] ++ unescapeChars rest := by
  by_cases same : c = '&'
  · subst same
    exact unescape_ampersand _ (by decide) rest
  · have digits := numeral_reference 16 c.toNat (by decide) (by decide)
    have value := numeral_value 16 (by decide) (by decide) c.toNat
    have other := numeral_not_spared 16 (by decide) (by decide) c same ['2', '6'] (by decide)
    have here := hexadecimal_character _ digits c value other
    exact unescape_at _ [ampersand] rfl _ c same here rest

/-- A character is decoded on its own, however it is written. -/
theorem unescape_character (c : Char) (piece rest : List Char) (spelled : Spelled c piece) :
    unescapeChars (piece ++ rest) = c :: unescapeChars rest := by
  cases spelled with
  | plain _ other => exact unescape_plain c other rest
  | less => exact unescape_named [] _ "lt;".toList '<' rfl (by decide) nofun rest
  | greater =>
      have kept := named_past 'l' 'g' ['t', ';'] ['t', ';'] '<' (by decide) (by decide)
      exact unescape_named [_] _ "gt;".toList '>' rfl (by decide)
        (List.forall_mem_singleton.mpr kept) rest
  | quote =>
      have first := named_past 'l' 'q' ['t', ';'] "uot;".toList '<' (by decide) (by decide)
      have second := named_past 'g' 'q' ['t', ';'] "uot;".toList '>' (by decide) (by decide)
      exact unescape_named [_, _] _ "quot;".toList '"' rfl (by decide)
        (List.forall_mem_cons.mpr ⟨first, List.forall_mem_singleton.mpr second⟩) rest
  | ampersand => exact unescape_ampersand _ (by decide) rest
  | decimal => exact unescape_decimal c rest
  | hexadecimal => exact unescape_hexadecimal c rest

theorem unescape_characters (text : List Char) (pieces : List (List Char))
    (spelled : List.Forall₂ Spelled text pieces) : unescapeChars pieces.flatten = text := by
  induction spelled with
  | nil => rfl
  | cons character _ ih => rw [List.flatten_cons, unescape_character _ _ _ character, ih]

-- Escaping writes a character by its name where it has one, and else as it is.
theorem escape_char_spelled (quoted : Bool) (c : Char) : Spelled c (escapeChar quoted c) := by
  unfold escapeChar
  split_ifs with ampersand less greater quote
  · exact ampersand ▸ .ampersand
  · exact less ▸ .less
  · exact greater ▸ .greater
  · exact quote.1 ▸ .quote
  · exact .plain c ampersand

theorem unescape_escape_chars (quoted : Bool) (text : List Char) :
    unescapeChars (escapeChars quoted text) = text := by
  have spelled : List.Forall₂ Spelled text (text.map (escapeChar quoted)) :=
    List.forall₂_map_right_iff.mpr (List.forall₂_same.mpr fun c _ => escape_char_spelled quoted c)
  exact unescape_characters text _ spelled

-- A character is written as it is, or with the letters of entities alone.
theorem escape_char_cases (quoted : Bool) (c : Char) :
    (escapeChar quoted c = [c] ∧ c ≠ '<' ∧ c ≠ '>' ∧ ¬ (c = '"' ∧ quoted = true)) ∨
      ∀ spelled ∈ escapeChar quoted c, spelled ∈ "&ampltgquo;".toList := by
  unfold escapeChar
  split_ifs with ampersand less greater quote
  · exact Or.inr (by simp)
  · exact Or.inr (by simp)
  · exact Or.inr (by simp)
  · exact Or.inr (by simp)
  · exact Or.inl ⟨rfl, less, greater, quote⟩

theorem not_mem_escape_chars (quoted : Bool) (text : List Char) (c : Char)
    (markup : c = '<' ∨ c = '>' ∨ (c = '"' ∧ quoted = true)) : c ∉ escapeChars quoted text := by
  intro member
  obtain ⟨source, _, spelled⟩ := List.mem_flatMap.mp member
  rcases escape_char_cases quoted source with ⟨plain, less, greater, quote⟩ | entity
  · rw [plain, List.mem_singleton] at spelled
    subst spelled
    rcases markup with same | same | same
    · exact less same
    · exact greater same
    · exact quote same
  · have letter := entity c spelled
    rcases markup with rfl | rfl | ⟨rfl, _⟩ <;> revert letter <;> decide

theorem mem_escape_chars (quoted : Bool) (text : List Char) (c : Char)
    (member : c ∈ escapeChars quoted text) (other : c ∉ "&ampltgquo;".toList) : c ∈ text := by
  obtain ⟨source, inside, spelled⟩ := List.mem_flatMap.mp member
  rcases escape_char_cases quoted source with ⟨plain, _⟩ | entity
  · rw [plain, List.mem_singleton] at spelled
    rwa [spelled]
  · exact (other (entity c spelled)).elim

/-- A text is decoded to itself in whatever way each of its characters is written, and so when it
is escaped. -/
theorem unescape_spelled (text : String) :
    (∀ pieces, List.Forall₂ Spelled text.toList pieces →
        unescape (String.ofList pieces.flatten) = text) ∧
      ∀ quoted, unescape (escape text quoted) = text := by
  constructor
  · intro pieces spelled
    rw [unescape, String.toList_ofList, unescape_characters _ _ spelled, String.ofList_toList]
  · intro quoted
    rw [unescape, escape, String.toList_ofList, unescape_escape_chars, String.ofList_toList]

/-- Pieces that decode to the letters of an entity. -/
def samplePieces : List (List Char) := ["&#38;".toList, ['l'], "&#x74;".toList, [';']]

theorem unescape_spelled_letters :
    List.Forall₂ Spelled "&lt;".toList samplePieces ∧
      unescape (String.ofList samplePieces.flatten) = "&lt;" := by
  have spelled : List.Forall₂ Spelled "&lt;".toList samplePieces :=
    .cons (.decimal '&') (.cons (.plain 'l' (by decide))
      (.cons (.hexadecimal 't') (.cons (.plain ';' (by decide)) .nil)))
  exact ⟨spelled, (unescape_spelled "&lt;").1 samplePieces spelled⟩

end MarkupTemplate.Entity
