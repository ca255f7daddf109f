import MarkupTemplate.Proofs.Text.Camel
import MarkupTemplate.Text.Letter

/-!
Names of small words with dashes between them. Camel case turns every dash and the letter behind it
into a capital, and the way back puts a dash in front of a whole run of capitals, so that a word of
a single letter loses the dash behind it. Main statement: camel case keeps such names apart, and a
name comes back exactly where all its words but the first and the last have more than one letter.
-/

namespace MarkupTemplate

/-- A character that is no capital and joins no words. -/
def IsSmall (c : Char) : Prop := c.isLower = true ∨ c.isDigit = true

instance (c : Char) : Decidable (IsSmall c) := inferInstanceAs (Decidable (_ ∨ _))

/-- A small letter, and small letters and digits behind it. -/
def SmallWord : List Char → Prop
  | [] => False
  | first :: rest => first.isLower = true ∧ ∀ c ∈ rest, IsSmall c

instance decidableSmallWord : (word : List Char) → Decidable (SmallWord word)
  | [] => inferInstanceAs (Decidable False)
  | first :: rest =>
      decidable_of_iff (first.isLower = true ∧ rest.all (fun c => decide (IsSmall c)) = true)
        (by simp [SmallWord])

/-- The words with a dash in front of each. -/
def dashed (words : List (List Char)) : List Char := words.flatMap ('-' :: ·)

def capitalized : List Char → List Char
  | [] => []
  | first :: rest => first.toUpper :: rest

theorem alphanum_ascii (c : Char) (alphanum : c.isAlphanum = true) : c.toNat < 128 := by
  rcases Bool.or_eq_true_iff.mp alphanum with alpha | digit
  · have code := code_of_isAlpha c alpha
    omega
  · have code := code_of_isDigit c digit
    omega

theorem alphanum_not (c : Char) (alphanum : c.isAlphanum = true) (other : Char)
    (apart : other.isAlphanum = false) : c ≠ other := by
  rintro rfl
  rw [apart] at alphanum
  cases alphanum

theorem lowered_capital (c : Char) (upper : c.isUpper = true) :
    c.toLower.isAlphanum = true := by
  have alpha : c.toLower.isAlpha = true := by
    rw [Char.isAlpha_toLower_eq_isAlpha]
    exact Bool.or_eq_true_iff.mpr (.inl upper)
  exact Bool.or_eq_true_iff.mpr (.inl alpha)

theorem lowered_alphanum (c : Char) (alphanum : c.isAlphanum = true) :
    c.toLower.isAlphanum = true := by
  by_cases upper : c.isUpper = true
  · exact lowered_capital c upper
  · rwa [Char.toLower_eq_of_not_isUpper upper]

theorem small_not_upper (c : Char) (small : IsSmall c) : c.isUpper = false := by
  cases upper : c.isUpper with
  | false => rfl
  | true =>
      have capital := code_of_isUpper c upper
      rcases small with lower | digit
      · have bounds := code_of_isLower c lower
        omega
      · have bounds := code_of_isDigit c digit
        omega

theorem small_not (c : Char) (small : IsSmall c) (other : Char) (apart : ¬IsSmall other) :
    c ≠ other := by
  rintro rfl
  exact apart small

theorem small_unmarked (text : List Char) (small : ∀ c ∈ text, IsSmall c) :
    ∀ c ∈ text, ¬(c = '_' ∨ c = '-') := by
  intro c member
  have letter := small c member
  exact not_or.mpr ⟨small_not c letter '_' (by decide), small_not c letter '-' (by decide)⟩

theorem lower_back (letter : Char) (lower : letter.isLower = true) :
    letter.toUpper.toLower = letter := by
  rw [Char.toLower_toUpper_eq_toLower]
  exact Char.toLower_eq_of_not_isUpper (by simp [small_not_upper letter (.inl lower)])

theorem small_word_chars (word : List Char) (small : SmallWord word) : ∀ c ∈ word, IsSmall c := by
  cases word with
  | nil => exact nofun
  | cons first rest =>
      intro c member
      rcases List.mem_cons.mp member with rfl | member
      · exact .inl small.1
      · exact small.2 c member

theorem camel_dashed (words : List (List Char)) (small : ∀ word ∈ words, SmallWord word) :
    camelChars (dashed words) = words.flatMap capitalized := by
  induction words with
  | nil => rfl
  | cons word words ih =>
      have later := ih fun other member => small other (List.mem_cons_of_mem word member)
      have here := small word List.mem_cons_self
      cases word with
      | nil => exact here.elim
      | cons first rest =>
          have unmarked := small_unmarked rest here.2
          have joined := camel_joined '-' first (rest ++ dashed words) ⟨.inr rfl, here.1⟩
          rw [camel_unmarked rest _ unmarked, later] at joined
          exact joined

/-! The boundaries of words in front of a run of capitals. -/

theorem uncapitalized_ascii (first : Char) (rest : List Char) (ascii : first.toNat < 128) :
    uncapitalizeChars (first :: rest) = first.toLower :: rest := by
  rw [uncapitalizeChars, lowercase, if_pos ascii]
  rfl

theorem replaced_absent (old new : Char) (text : List Char) (absent : old ∉ text) :
    replaceChar old new text = text := by
  refine (List.map_congr_left fun c member => ?_).trans (List.map_id _)
  exact if_neg fun same : c = old => absent (same ▸ member)

/-- A name without underscores, and with an ASCII letter at its start. -/
theorem param_ascii (first : Char) (rest : List Char) (ascii : first.toNat < 128)
    (unmarked : '_' ∉ first.toLower :: rest) :
    paramChars (first :: rest) = substitute paramRule (first.toLower :: rest) := by
  rw [paramChars, uncapitalized_ascii first rest ascii, replaced_absent _ _ _ unmarked]

theorem param_kept (head : Char) (rest : List Char)
    (small : ∀ c ∈ rest.head?, c.isUpper = false) :
    substitute paramRule (head :: rest) = head :: substitute paramRule rest := by
  apply substitute_kept
  cases rest with
  | nil => rfl
  | cons c rest => rw [paramRule, List.takeWhile_cons, small c rfl, if_neg Bool.false_ne_true]

theorem param_boundary (head : Char) (capitals rest : List Char) (line : head ≠ '\n')
    (filled : capitals ≠ []) (upper : ∀ c ∈ capitals, c.isUpper = true)
    (small : ∀ c ∈ rest.head?, c.isUpper = false) :
    substitute paramRule (head :: (capitals ++ rest)) =
      head :: '-' :: (capitals.map Char.toLower ++ substitute paramRule rest) := by
  have run : (capitals ++ rest).takeWhile Char.isUpper = capitals := by
    rw [List.takeWhile_append_of_pos upper]
    cases rest with
    | nil => simp
    | cons c rest => simp [small c rfl]
  have found : paramRule (head :: (capitals ++ rest)) =
      some (head :: '-' :: capitals.map Char.toLower, capitals.length) := by
    rw [paramRule, run]
    cases capitals with
    | nil => exact absurd rfl filled
    | cons capital capitals => exact if_neg line
  rw [substitute_found paramRule head _ _ _ found, List.drop_left, List.cons_append,
    List.cons_append]

/-- The characters that the search for boundaries puts into a text are dashes and lowered capitals
of it. -/
theorem param_all (kind : Char → Prop) (dash : kind '-')
    (lowered : ∀ c, kind c → c.isUpper = true → kind c.toLower) (text : List Char)
    (all : ∀ c ∈ text, kind c) : ∀ c ∈ substitute paramRule text, kind c := by
  refine substituteAfter_all paramRule kind ?_ 0 text all
  intro part replacement more every found
  cases part with
  | nil => cases found
  | cons head rest =>
      rw [paramRule] at found
      split at found
      · cases found
      · split at found <;> cases found
        obtain ⟨first, behind⟩ := List.forall_mem_cons.mp every
        refine List.forall_mem_cons.mpr ⟨first, List.forall_mem_cons.mpr ⟨dash, ?_⟩⟩
        refine List.forall_mem_map.mpr fun c member => lowered c ?_ (List.mem_takeWhile_imp member)
        exact behind c ((List.takeWhile_prefix _).subset member)

/-- The words as they come back from camel case: a single letter loses the dash behind it. -/
def respelled : Bool → List (List Char) → List Char
  | _, [] => []
  | joined, word :: rest =>
      (if joined then word else '-' :: word) ++ respelled (word.length == 1) rest

/-- The run of capitals with which capitalized words begin, and what becomes of it and of the text
behind it. -/
structure CapitalRun (words : List (List Char)) (capitals behind : List Char) : Prop where
  whole : words.flatMap capitalized = capitals ++ behind
  upper : ∀ c ∈ capitals, c.isUpper = true
  small : ∀ c ∈ behind.head?, c.isUpper = false
  filled : words ≠ [] → capitals ≠ []
  lowered : capitals.map Char.toLower ++ substitute paramRule behind = respelled true words

theorem respelled_cons (word : List Char) (rest : List (List Char)) :
    respelled false (word :: rest) = '-' :: respelled true (word :: rest) := rfl

theorem CapitalRun.after {words : List (List Char)} {capitals behind : List Char}
    (run : CapitalRun words capitals behind) (head : Char) (line : head ≠ '\n') :
    substitute paramRule (head :: words.flatMap capitalized) = head :: respelled false words := by
  cases words with
  | nil => rfl
  | cons word rest =>
      have filled := run.filled (List.cons_ne_nil word rest)
      rw [run.whole, param_boundary head _ _ line filled run.upper run.small, run.lowered,
        respelled_cons]

theorem CapitalRun.after_small {words : List (List Char)} {capitals behind : List Char}
    (run : CapitalRun words capitals behind) (start : List Char) (filled : start ≠ [])
    (small : ∀ c ∈ start, IsSmall c) :
    substitute paramRule (start ++ words.flatMap capitalized) = start ++ respelled false words := by
  induction start with
  | nil => exact absurd rfl filled
  | cons head start ih =>
      cases start with
      | nil =>
          have line := small_not head (small head List.mem_cons_self) '\n' (by decide)
          exact run.after head line
      | cons next start =>
          have later := fun c member => small c (List.mem_cons_of_mem head member)
          have apart := small_not_upper next (later next List.mem_cons_self)
          have kept := param_kept head (next :: start ++ words.flatMap capitalized) (by simpa)
          exact kept.trans (congrArg (head :: ·) (ih (List.cons_ne_nil next start) later))

theorem capital_run_nil : CapitalRun [] [] [] :=
  ⟨rfl, nofun, nofun, fun some => absurd rfl some, rfl⟩

theorem capital_run_letter (letter : Char) (words : List (List Char)) (capitals behind : List Char)
    (lower : letter.isLower = true) (run : CapitalRun words capitals behind) :
    CapitalRun ([letter] :: words) (letter.toUpper :: capitals) behind where
  whole := congrArg (letter.toUpper :: ·) run.whole
  upper := by
    intro c member
    rcases List.mem_cons.mp member with rfl | member
    · exact capital_upper letter lower
    · exact run.upper c member
  small := run.small
  filled := fun _ => List.cons_ne_nil _ _
  lowered := by
    rw [List.map_cons, lower_back letter lower, List.cons_append, run.lowered]
    rfl

theorem capital_run_word (first second : Char) (rest : List Char) (words : List (List Char))
    (capitals behind : List Char) (word : SmallWord (first :: second :: rest))
    (run : CapitalRun words capitals behind) :
    CapitalRun ((first :: second :: rest) :: words) [first.toUpper]
      (second :: rest ++ words.flatMap capitalized) where
  whole := rfl
  upper := by
    intro c member
    rw [List.mem_singleton.mp member]
    exact capital_upper first word.1
  small := by
    intro c member
    cases member
    exact small_not_upper second (word.2 second List.mem_cons_self)
  filled := fun _ => List.cons_ne_nil _ _
  lowered := by
    have read := run.after_small (second :: rest) (List.cons_ne_nil _ _) word.2
    rw [read, List.map_singleton, lower_back first word.1]
    rfl

theorem words_capital_run (words : List (List Char)) (small : ∀ word ∈ words, SmallWord word) :
    ∃ capitals behind, CapitalRun words capitals behind := by
  induction words with
  | nil => exact ⟨[], [], capital_run_nil⟩
  | cons word words ih =>
      obtain ⟨capitals, behind, run⟩ :=
        ih fun other member => small other (List.mem_cons_of_mem word member)
      have here := small word List.mem_cons_self
      match word, here with
      | [letter], here => exact ⟨_, _, capital_run_letter letter words capitals behind here.1 run⟩
      | first :: second :: rest, here =>
          exact ⟨_, _, capital_run_word first second rest words capitals behind here run⟩

theorem capitalized_unmarked (words : List (List Char)) (small : ∀ word ∈ words, SmallWord word) :
    '_' ∉ words.flatMap capitalized := by
  intro member
  obtain ⟨word, inside, letter⟩ := List.mem_flatMap.mp member
  have here := small word inside
  cases word with
  | nil => exact here
  | cons first rest =>
      rcases List.mem_cons.mp letter with same | letter
      · have capital := capital_upper first here.1
        rw [← same] at capital
        cases capital
      · exact small_not '_' (here.2 '_' letter) '_' (by decide) rfl

/-- What becomes of a name in camel case and back: only dashes behind single letters are lost. -/
theorem param_camel_words (first : List Char) (words : List (List Char)) (start : SmallWord first)
    (small : ∀ word ∈ words, SmallWord word) :
    paramChars (camelChars (first ++ dashed words)) = first ++ respelled false words := by
  obtain ⟨capitals, behind, run⟩ := words_capital_run words small
  have chars := small_word_chars first start
  have unmarked := small_unmarked first chars
  have camel : camelChars (first ++ dashed words) = first ++ words.flatMap capitalized := by
    rw [camel_unmarked first _ unmarked, camel_dashed words small]
  have underscored : '_' ∉ first ++ words.flatMap capitalized := by
    intro member
    rcases List.mem_append.mp member with inside | behind
    · exact unmarked '_' inside (.inl rfl)
    · exact capitalized_unmarked words small behind
  have spelled : paramChars (first ++ words.flatMap capitalized) =
      substitute paramRule (first ++ words.flatMap capitalized) := by
    cases first with
    | nil => exact start.elim
    | cons letter rest =>
        have code := code_of_isLower letter start.1
        have same : letter.toLower = letter :=
          Char.toLower_eq_of_not_isUpper (by simp [small_not_upper letter (.inl start.1)])
        have lowered := param_ascii letter (rest ++ words.flatMap capitalized) (by omega)
        rw [same] at lowered
        exact lowered underscored
  have filled : first ≠ [] := by
    rintro rfl
    exact start
  rw [camel, spelled]
  exact run.after_small first filled chars

theorem respelled_dashed_iff (words : List (List Char))
    (small : ∀ word ∈ words, SmallWord word) :
    respelled false words = dashed words ↔ ∀ word ∈ words.dropLast, word.length ≠ 1 := by
  induction words with
  | nil => simp [respelled, dashed]
  | cons word words ih =>
      have later := ih fun other member => small other (List.mem_cons_of_mem word member)
      have split : dashed (word :: words) = ('-' :: word) ++ dashed words := rfl
      have read : respelled false (word :: words) =
          ('-' :: word) ++ respelled (word.length == 1) words := rfl
      rw [split, read, List.append_cancel_left_eq]
      cases words with
      | nil => simp [respelled, dashed]
      | cons next words =>
          by_cases single : word.length = 1
          · -- The next word follows without a dash, and begins with a letter.
            have begins := small next (by simp)
            have apart : respelled true (next :: words) ≠ dashed (next :: words) := by
              cases next with
              | nil => exact begins.elim
              | cons first rest =>
                  intro same
                  have dash : first = '-' := (List.cons.inj same).1
                  exact small_not first (.inl begins.1) '-' (by decide) dash
            simp [single, apart]
          · have plain : (word.length == 1) = false := by simpa using single
            rw [plain, later, List.dropLast_cons_cons, List.forall_mem_cons]
            exact (and_iff_right single).symm

/-! Camel case keeps names apart: every dash is seen in it as a capital. -/

def spread (text : List Char) : List Char :=
  text.flatMap fun c => if c.isUpper then ['-', c.toLower] else [c]

theorem spread_camel : ∀ text : List Char, (∀ c ∈ text, c.isUpper = false ∧ c ≠ '_') →
    spread (camelChars text) = text
  | [], _ => rfl
  | [c], plain => by simp [camelChars, substitute, substituteAfter, camelRule, spread, plain c]
  | mark :: letter :: rest, plain => by
      have later := spread_camel rest fun c member => plain c (by simp [member])
      have next := spread_camel (letter :: rest) fun c member =>
        plain c (List.mem_cons_of_mem mark member)
      have here := plain mark List.mem_cons_self
      by_cases joins : Joins mark letter
      · have dash := joins.1.resolve_left here.2
        rw [camel_joined mark letter rest joins, spread, List.flatMap_cons,
          if_pos (capital_upper letter joins.2), lower_back letter joins.2, dash, ← spread, later]
        rfl
      · rw [camel_kept mark letter rest joins, spread, List.flatMap_cons, here.1, ← spread, next]
        rfl

/-- The name with these words. -/
def kebab (words : List String) : String := "-".intercalate words

theorem kebab_chars (first : String) (words : List String) :
    (kebab (first :: words)).toList = first.toList ++ dashed (words.map String.toList) := by
  rw [kebab, String.toList_intercalate]
  induction words generalizing first with
  | nil => simp [dashed]
  | cons next words ih =>
      have later := ih next
      rw [List.map_cons, List.map_cons, List.intercalate_cons_cons, ← List.map_cons, later]
      simp [dashed]

theorem kebab_plain (words : List String) (small : ∀ word ∈ words, SmallWord word.toList) :
    ∀ c ∈ (kebab words).toList, c.isUpper = false ∧ c ≠ '_' := by
  have plain : ∀ word ∈ words, ∀ c ∈ word.toList, c.isUpper = false ∧ c ≠ '_' := by
    intro word member c inside
    have letter := small_word_chars _ (small word member) c inside
    exact ⟨small_not_upper c letter, small_not c letter '_' (by decide)⟩
  cases words with
  | nil => exact nofun
  | cons first words =>
      intro c member
      rw [kebab_chars] at member
      rcases List.mem_append.mp member with inside | behind
      · exact plain first List.mem_cons_self c inside
      · obtain ⟨letters, among, inside⟩ := List.mem_flatMap.mp behind
        obtain ⟨word, later, rfl⟩ := List.mem_map.mp among
        rcases List.mem_cons.mp inside with rfl | inside
        · exact ⟨by decide, by decide⟩
        · exact plain word (List.mem_cons_of_mem first later) c inside

/-- A name comes back from camel case exactly where its words, the first and the last apart, have
more than one letter. No two names have the same camel case. -/
theorem param_camel_kebab_iff (words : List String) (filled : words ≠ [])
    (small : ∀ word ∈ words, SmallWord word.toList) :
    (paramCase (camelCase (kebab words)) = kebab words ↔
        ∀ word ∈ words.tail.dropLast, word.length ≠ 1) ∧
      ∀ others : List String, (∀ word ∈ others, SmallWord word.toList) →
        camelCase (kebab words) = camelCase (kebab others) → kebab words = kebab others := by
  constructor
  · cases words with
    | nil => exact absurd rfl filled
    | cons first words =>
        have start := small first List.mem_cons_self
        have rest : ∀ word ∈ words.map String.toList, SmallWord word := by
          intro word member
          obtain ⟨source, inside, rfl⟩ := List.mem_map.mp member
          exact small source (List.mem_cons_of_mem first inside)
        rw [paramCase, camelCase, String.toList_ofList, ← String.toList_inj, String.toList_ofList,
          kebab_chars, param_camel_words first.toList _ start rest, List.append_cancel_left_eq,
          respelled_dashed_iff _ rest, List.tail_cons, ← List.map_dropLast, List.forall_mem_map]
        rfl
  · intro others plain same
    have chars : camelChars (kebab words).toList = camelChars (kebab others).toList :=
      String.ofList_injective same
    have left := spread_camel _ (kebab_plain words small)
    have right := spread_camel _ (kebab_plain others plain)
    exact String.toList_inj.mp (left.symm.trans ((congrArg spread chars).trans right))

theorem param_camel_kebab_iff_letters :
    (∀ word ∈ ["x", "on", "v2", "y"], SmallWord word.toList) ∧
      paramCase (camelCase (kebab ["x", "on", "v2", "y"])) = kebab ["x", "on", "v2", "y"] := by
  have small : ∀ word ∈ ["x", "on", "v2", "y"], SmallWord word.toList := by decide
  have back := (param_camel_kebab_iff _ (List.cons_ne_nil _ _) small).1
  exact ⟨small, back.mpr (by decide)⟩

/-- A word of a single letter is joined to the one behind it. -/
theorem single_letter_joined :
    (∀ word ∈ ["a", "b", "c"], SmallWord word.toList) ∧ kebab ["a", "b", "c"] = "a-b-c" ∧
      paramCase (camelCase "a-b-c") = "a-bc" ∧ "a-bc" ≠ "a-b-c" :=
  ⟨by decide, by decide, by decide, by decide⟩

end MarkupTemplate
