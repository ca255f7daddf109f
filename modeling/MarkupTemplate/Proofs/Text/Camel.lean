import MarkupTemplate.Text.Case
import Mathlib

/-!
Names in camel case. A mark before a small letter joins two words, and such a pair is what the
spelling is made to remove. Main statements: none is left behind, so a name in camel case is its own
camel case, and a name without capitals is that of no other one.
-/

namespace MarkupTemplate

/-- A mark and a small letter behind it. -/
def Joins (mark letter : Char) : Prop := (mark = '_' ∨ mark = '-') ∧ letter.isLower = true

instance (mark letter : Char) : Decidable (Joins mark letter) :=
  inferInstanceAs (Decidable (_ ∧ _))

theorem camel_joined (mark letter : Char) (rest : List Char) (joins : Joins mark letter) :
    camelChars (mark :: letter :: rest) = letter.toUpper :: camelChars rest :=
  substitute_found camelRule mark (letter :: rest) [letter.toUpper] 1 (if_pos joins)

theorem camel_kept (mark letter : Char) (rest : List Char) (apart : ¬Joins mark letter) :
    camelChars (mark :: letter :: rest) = mark :: camelChars (letter :: rest) :=
  substitute_kept camelRule mark (letter :: rest) (if_neg apart)

theorem capital_upper (letter : Char) (small : letter.isLower = true) :
    letter.toUpper.isUpper = true := by
  have alpha : letter.isAlpha = true := Bool.or_eq_true_iff.mpr (Or.inr small)
  exact (Char.isUpper_toUpper_eq_isAlpha letter).trans alpha

theorem capital_not_mark (letter : Char) (small : letter.isLower = true) :
    ¬(letter.toUpper = '_' ∨ letter.toUpper = '-') := by
  have capital := capital_upper letter small
  rintro (same | same)
  · rw [same] at capital
    exact absurd capital (by decide)
  · rw [same] at capital
    exact absurd capital (by decide)

/-- Nothing is left to join. -/
def Joined : List Char → Prop
  | mark :: letter :: rest => ¬Joins mark letter ∧ Joined (letter :: rest)
  | _ => True

theorem camel_of_joined (text : List Char) (joined : Joined text) : camelChars text = text := by
  induction text with
  | nil => rfl
  | cons mark rest ih =>
      cases rest with
      | nil => rfl
      | cons letter rest => rw [camel_kept mark letter rest joined.1, ih joined.2]

-- A small letter at the start was there before: one that is joined becomes a capital.
theorem camel_starts (first : Char) (rest : List Char) :
    ∃ start more, camelChars (first :: rest) = start :: more ∧
      (start = first ∨ start.isLower = false) := by
  cases rest with
  | nil => exact ⟨first, [], rfl, Or.inl rfl⟩
  | cons letter rest =>
      by_cases joins : Joins first letter
      · exact ⟨_, _, camel_joined first letter rest joins,
          Or.inr (Char.isLower_toUpper_eq_false letter)⟩
      · exact ⟨first, _, camel_kept first letter rest joins, Or.inl rfl⟩

theorem joined_before (mark letter : Char) (rest : List Char) (apart : ¬Joins mark letter)
    (joined : Joined (camelChars (letter :: rest))) :
    Joined (mark :: camelChars (letter :: rest)) := by
  obtain ⟨start, more, written, same | capital⟩ := camel_starts letter rest
  · rw [written] at joined ⊢
    exact ⟨same ▸ apart, joined⟩
  · rw [written] at joined ⊢
    refine ⟨fun joins => ?_, joined⟩
    rw [joins.2] at capital
    cases capital

theorem capital_before (capital : Char) (text : List Char) (joined : Joined text)
    (unmarked : ¬(capital = '_' ∨ capital = '-')) : Joined (capital :: text) := by
  cases text with
  | nil => trivial
  | cons first rest => exact ⟨fun joins => unmarked joins.1, joined⟩

theorem joined_camel : ∀ text : List Char, Joined (camelChars text)
  | [] => trivial
  | [_] => trivial
  | mark :: letter :: rest => by
      by_cases joins : Joins mark letter
      · rw [camel_joined mark letter rest joins]
        exact capital_before letter.toUpper _ (joined_camel rest) (capital_not_mark letter joins.2)
      · rw [camel_kept mark letter rest joins]
        exact joined_before mark letter rest joins (joined_camel (letter :: rest))

theorem camel_camel (name : String) : camelCase (camelCase name) = camelCase name := by
  rw [camelCase, camelCase, String.toList_ofList, camel_of_joined _ (joined_camel _)]

-- Every pair that is joined leaves a capital behind.
theorem camel_without_capital : ∀ text : List Char,
    (∀ c ∈ camelChars text, c.isUpper = false) → camelChars text = text
  | [], _ => rfl
  | [_], _ => rfl
  | mark :: letter :: rest, small => by
      by_cases joins : Joins mark letter
      · rw [camel_joined mark letter rest joins] at small
        have capital := capital_upper letter joins.2
        rw [small _ List.mem_cons_self] at capital
        cases capital
      · rw [camel_kept mark letter rest joins] at small ⊢
        rw [camel_without_capital (letter :: rest) fun c member =>
          small c (List.mem_cons_of_mem _ member)]

/-- A name without capitals is the camel case of no other name. -/
theorem camel_small (name small : String) (plain : ∀ c ∈ small.toList, c.isUpper = false)
    (same : camelCase name = small) : name = small := by
  have chars : camelChars name.toList = small.toList := by
    rw [← same, camelCase, String.toList_ofList]
  have kept := camel_without_capital name.toList (chars ▸ plain)
  rw [kept] at chars
  exact String.toList_inj.mp chars

theorem camel_unmarked (start rest : List Char)
    (unmarked : ∀ c ∈ start, ¬(c = '_' ∨ c = '-')) :
    camelChars (start ++ rest) = start ++ camelChars rest := by
  induction start with
  | nil => rfl
  | cons first start ih =>
      have later := ih fun c member => unmarked c (List.mem_cons_of_mem first member)
      have here := unmarked first List.mem_cons_self
      rw [List.cons_append, List.cons_append, ← later]
      cases start ++ rest with
      | nil => rfl
      | cons letter rest => exact camel_kept first letter rest fun joins => here joins.1

-- All small letters lie above both marks.
theorem lowered_above : ∀ run ∈ capitalRuns, 95 < (run.first : Int) + run.offset := by
  decide +kernel

theorem above_unmarked (code : Nat) (above : 95 < code) :
    ¬(Char.ofNat code = '_' ∨ Char.ofNat code = '-') := by
  have cases : Char.ofNat code = '\x00' ∨ (Char.ofNat code).toNat = code := by
    unfold Char.ofNat
    split
    · exact .inr rfl
    · exact .inl rfl
  rintro (mark | mark)
  · rw [mark] at cases
    simp at cases
    omega
  · rw [mark] at cases
    simp at cases
    omega

theorem lowercase_unmarked (first : Char) (unmarked : ¬(first = '_' ∨ first = '-')) :
    ∀ c ∈ lowercase first, ¬(c = '_' ∨ c = '-') := by
  intro c member
  unfold lowercase at member
  split at member
  · rw [List.mem_singleton.mp member]
    by_cases capital : first.isUpper = true
    · have alpha : first.isAlpha = true := Bool.or_eq_true_iff.mpr (Or.inl capital)
      have small := (Char.isLower_toLower_eq_isAlpha first).trans alpha
      rintro (mark | mark)
      · rw [mark] at small
        cases small
      · rw [mark] at small
        cases small
    · rw [Char.toLower_eq_of_not_isUpper capital]
      exact unmarked
  · split at member
    · rcases List.mem_cons.mp member with rfl | member
      · decide
      · rw [List.mem_singleton.mp member]
        decide
    · split at member
      · rename_i run found
        have holds := List.find?_some found
        have above := lowered_above run (List.mem_of_find?_eq_some found)
        simp only [CaseRun.holds, Bool.and_eq_true, decide_eq_true_eq] at holds
        rw [List.mem_singleton.mp member]
        apply above_unmarked
        omega
      · rw [List.mem_singleton.mp member]
        exact unmarked

/-- A name in camel case stays in camel case when its first letter is lowered. -/
theorem camel_uncapitalized (name : String) (camel : camelCase name = name) :
    camelCase (uncapitalize name) = uncapitalize name := by
  have chars : camelChars name.toList = name.toList := by
    rw [← String.toList_ofList (l := camelChars name.toList)]
    exact congrArg String.toList camel
  rw [camelCase, uncapitalize, String.toList_ofList]
  apply congrArg
  cases letters : name.toList with
  | nil => rfl
  | cons first rest =>
      rw [letters] at chars
      by_cases mark : first = '_' ∨ first = '-'
      · rcases mark with rfl | rfl
        · exact chars
        · exact chars
      · have behind : camelChars rest = rest := by
          have kept := camel_unmarked [first] rest (by simpa using mark)
          exact (List.cons.inj (kept.symm.trans chars)).2
        rw [uncapitalizeChars, camel_unmarked _ rest (lowercase_unmarked first mark), behind]

end MarkupTemplate
