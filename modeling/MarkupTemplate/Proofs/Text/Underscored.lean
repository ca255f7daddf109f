import MarkupTemplate.Proofs.Text.Dashed

/-!
Names with underscores. Both spellings put a separator in front of capitals and lower them, with
dashes for a whole run of capitals at once, with underscores for a single one; behind it the run
goes on. Main statement: on names of letters, digits and separators the spelling with underscores is
the one with dashes, has no capitals and is its own spelling in just one case, where no two capitals
stand side by side behind the first character.
-/

namespace MarkupTemplate

/-- A character of a compound name in any of its spellings. -/
def IsCompoundPart (c : Char) : Prop := c.isAlphanum = true ∨ c = '-' ∨ c = '_'

instance (c : Char) : Decidable (IsCompoundPart c) := inferInstanceAs (Decidable (_ ∨ _ ∨ _))

def Small (text : List Char) : Prop := ∀ c ∈ text, c.isUpper = false

/-- The text does not begin with a capital. -/
def StartsSmall (text : List Char) : Prop := ∀ c ∈ text.head?, c.isUpper = false

/-- No capital has another one next to it. -/
def CapitalsApart (text : List Char) : Prop :=
  text.IsChain fun c next => ¬(c.isUpper = true ∧ next.isUpper = true)

instance (text : List Char) : Decidable (CapitalsApart text) :=
  inferInstanceAs (Decidable (List.IsChain _ _))

theorem compound_ascii (c : Char) (part : IsCompoundPart c) : c.toNat < 128 := by
  rcases part with alphanum | rfl | rfl
  · exact alphanum_ascii c alphanum
  · decide
  · decide

theorem compound_not_line (c : Char) (part : IsCompoundPart c) : c ≠ '\n' := by
  rcases part with alphanum | rfl | rfl
  · exact alphanum_not c alphanum '\n' rfl
  · decide
  · decide

theorem compound_lines (text : List Char) (parts : ∀ c ∈ text, IsCompoundPart c) : '\n' ∉ text :=
  fun member => compound_not_line '\n' (parts '\n' member) rfl

theorem lowered_not (c other : Char) (upper : c.isUpper = true) (apart : other.isAlpha = false) :
    c.toLower ≠ other := by
  rintro rfl
  rw [Char.isAlpha_toLower_eq_isAlpha, Char.isAlpha, upper] at apart
  cases apart

theorem compound_lowered (c : Char) (part : IsCompoundPart c) : IsCompoundPart c.toLower := by
  rcases part with alphanum | rfl | rfl
  · exact .inl (lowered_alphanum c alphanum)
  · decide
  · decide

theorem lowered_small (c : Char) : c.toLower.isUpper = false := Char.isUpper_toLower_eq_false c

theorem small_cons_iff (c : Char) (text : List Char) :
    Small (c :: text) ↔ c.isUpper = false ∧ Small text := List.forall_mem_cons

theorem starts_small_cons_iff (c : Char) (text : List Char) :
    StartsSmall (c :: text) ↔ c.isUpper = false := by simp [StartsSmall]

theorem apart_cons_small (c : Char) (text : List Char) (small : c.isUpper = false) :
    CapitalsApart (c :: text) ↔ CapitalsApart text := by
  simp [CapitalsApart, List.isChain_cons, small]

theorem apart_cons_capital (c : Char) (text : List Char) (upper : c.isUpper = true) :
    CapitalsApart (c :: text) ↔ StartsSmall text ∧ CapitalsApart text := by
  simp [CapitalsApart, StartsSmall, List.isChain_cons, upper]

theorem snake_kept (head : Char) (rest : List Char) (small : StartsSmall rest) :
    substitute snakeRule (head :: rest) = head :: substitute snakeRule rest := by
  apply substitute_kept
  cases rest with
  | nil => rfl
  | cons c rest => exact if_neg fun found => by simp [small c rfl] at found

theorem snake_boundary (head capital : Char) (rest : List Char) (line : head ≠ '\n')
    (upper : capital.isUpper = true) :
    substitute snakeRule (head :: capital :: rest) =
      head :: '_' :: capital.toLower :: substitute snakeRule rest :=
  substitute_found snakeRule head (capital :: rest) [head, '_', capital.toLower] 1
    (if_pos ⟨line, upper⟩)

/-- Only a capital right behind another one is left, so none is left exactly where there is no such
pair. -/
theorem snake_small_iff : ∀ text : List Char, '\n' ∉ text →
    (Small (substitute snakeRule text) ↔ StartsSmall text ∧ CapitalsApart text)
  | [], _ => by simp [Small, StartsSmall, CapitalsApart]
  | [c], _ => by
      simp [Small, StartsSmall, CapitalsApart, snake_kept c [] (by simp [StartsSmall])]
  | c :: next :: rest, lines => by
      obtain ⟨here, later⟩ := List.ne_and_not_mem_of_not_mem_cons lines
      rw [starts_small_cons_iff]
      cases upper : next.isUpper with
      | true =>
          have behind := snake_small_iff rest (List.not_mem_of_not_mem_cons later)
          rw [snake_boundary c next rest here.symm upper, small_cons_iff, small_cons_iff,
            small_cons_iff, behind, ← apart_cons_capital next rest upper]
          constructor
          · exact fun ⟨small, _, _, apart⟩ => ⟨small, (apart_cons_small c _ small).mpr apart⟩
          · exact fun ⟨small, apart⟩ =>
              ⟨small, by decide, lowered_small next, (apart_cons_small c _ small).mp apart⟩
      | false =>
          have starts : StartsSmall (next :: rest) := (starts_small_cons_iff next rest).mpr upper
          rw [snake_kept c (next :: rest) starts, small_cons_iff,
            snake_small_iff (next :: rest) later]
          constructor
          · exact fun ⟨small, _, apart⟩ => ⟨small, (apart_cons_small c _ small).mpr apart⟩
          · exact fun ⟨small, apart⟩ => ⟨small, starts, (apart_cons_small c _ small).mp apart⟩

/-- A text stays as it is exactly where it has no capitals. -/
theorem snake_fixed_iff : ∀ text : List Char, '\n' ∉ text → StartsSmall text →
    (substitute snakeRule text = text ↔ Small text)
  | [], _, _ => by simp [Small]
  | [c], _, starts => by
      simp [Small, snake_kept c [] (by simp [StartsSmall]), (starts_small_cons_iff c []).mp starts]
  | c :: next :: rest, lines, starts => by
      obtain ⟨here, later⟩ := List.ne_and_not_mem_of_not_mem_cons lines
      have first := (starts_small_cons_iff c _).mp starts
      rw [small_cons_iff]
      cases upper : next.isUpper with
      | true =>
          rw [snake_boundary c next rest here.symm upper, small_cons_iff, upper]
          refine iff_of_false (fun same => ?_) (by simp)
          have mark : '_' = next := (List.cons.inj (List.cons.inj same).2).1
          rw [← mark] at upper
          cases upper
      | false =>
          have small : StartsSmall (next :: rest) := (starts_small_cons_iff next rest).mpr upper
          rw [snake_kept c (next :: rest) small, List.cons_inj_right,
            snake_fixed_iff (next :: rest) later small]
          exact (and_iff_right first).symm

theorem starts_small_behind (text : List Char) : StartsSmall (text.dropWhile Char.isUpper) := by
  intro c begins
  have stops := List.head?_dropWhile_not Char.isUpper text
  rwa [begins] at stops

/-- The spelling with dashes leaves no capital, however long the runs of capitals are. -/
theorem param_small (text : List Char) (lines : '\n' ∉ text) (starts : StartsSmall text) :
    Small (substitute paramRule text) := by
  induction size : text.length using Nat.strong_induction_on generalizing text with
  | _ total ih =>
      cases text with
      | nil => exact nofun
      | cons head rest =>
          have first := (starts_small_cons_iff head rest).mp starts
          obtain ⟨line, noLine⟩ := List.ne_and_not_mem_of_not_mem_cons lines
          have parts : rest.takeWhile Char.isUpper ++ rest.dropWhile Char.isUpper = rest :=
            List.takeWhile_append_dropWhile
          have behind := starts_small_behind rest
          have shorter : (rest.dropWhile Char.isUpper).length < total :=
            size ▸ Nat.lt_succ_of_le (List.length_dropWhile_le Char.isUpper rest)
          have fewer : '\n' ∉ rest.dropWhile Char.isUpper := fun member =>
            noLine ((List.dropWhile_sublist _).mem member)
          have later := ih _ shorter _ fewer behind rfl
          cases run : rest.takeWhile Char.isUpper with
          | nil =>
              rw [run, List.nil_append] at parts
              rw [parts] at behind later
              rw [param_kept head rest behind]
              exact (small_cons_iff head _).mpr ⟨first, later⟩
          | cons capital more =>
              have upper : ∀ c ∈ capital :: more, c.isUpper = true := fun c member =>
                List.mem_takeWhile_imp (run ▸ member)
              rw [run] at parts
              have filled := List.cons_ne_nil capital more
              rw [← parts, param_boundary head _ _ line.symm filled upper behind, small_cons_iff,
                small_cons_iff]
              refine ⟨first, by decide, List.forall_mem_append.mpr ⟨?_, later⟩⟩
              exact List.forall_mem_map.mpr fun c _ => lowered_small c

theorem param_single (head capital : Char) (rest : List Char) (line : head ≠ '\n')
    (upper : capital.isUpper = true) (small : StartsSmall rest) :
    substitute paramRule (head :: capital :: rest) =
      head :: '-' :: capital.toLower :: substitute paramRule rest :=
  param_boundary head [capital] rest line (List.cons_ne_nil capital [])
    (List.forall_mem_singleton.mpr upper) small

/-! The separators of both spellings. -/

/-- What a character becomes where one is replaced by another. -/
def replaced (old new c : Char) : Char := if c = old then new else c

theorem replaced_cons (old new c : Char) (rest : List Char) :
    replaceChar old new (c :: rest) = replaced old new c :: replaceChar old new rest := rfl

theorem replaced_other (old new c : Char) (other : c ≠ old) : replaced old new c = c := if_neg other

theorem replaced_twice (c : Char) : replaced '-' '_' (replaced '_' '-' c) = replaced '-' '_' c := by
  by_cases score : c = '_'
  · rw [score]
    rfl
  · rw [replaced_other '_' '-' c score]

section

variable (old new : Char) (oldSmall : old.isUpper = false)

include oldSmall

theorem replaced_capital (c : Char) (upper : c.isUpper = true) : replaced old new c = c := by
  refine replaced_other old new c fun same => ?_
  rw [same, oldSmall] at upper
  cases upper

variable (newSmall : new.isUpper = false)

include newSmall

theorem replaced_upper (c : Char) : (replaced old new c).isUpper = c.isUpper := by
  by_cases same : c = old
  · rw [replaced, if_pos same, newSmall, same, oldSmall]
  · rw [replaced_other old new c same]

theorem replaced_starts_small (text : List Char) (starts : StartsSmall text) :
    StartsSmall (replaceChar old new text) := by
  cases text with
  | nil => exact nofun
  | cons c rest =>
      have kept := replaced_upper old new oldSmall newSmall c
      exact (starts_small_cons_iff _ _).mpr (kept.trans ((starts_small_cons_iff c rest).mp starts))

theorem replaced_small (text : List Char) (small : Small text) :
    Small (replaceChar old new text) :=
  List.forall_mem_map.mpr fun c member =>
    (replaced_upper old new oldSmall newSmall c).trans (small c member)

theorem replaced_apart_iff (text : List Char) :
    CapitalsApart (replaceChar old new text) ↔ CapitalsApart text := by
  have upper := replaced_upper old new oldSmall newSmall
  simp only [replaced] at upper
  simp only [CapitalsApart, replaceChar, List.isChain_map, upper]

end

theorem replaced_not_line (old new : Char) (text : List Char) (newLine : new ≠ '\n')
    (lines : '\n' ∉ text) : '\n' ∉ replaceChar old new text := by
  intro member
  obtain ⟨c, inside, same⟩ := List.mem_map.mp member
  split at same
  · exact newLine same
  · exact lines (same ▸ inside)

/-- Where no two capitals stand side by side, both spellings find the same boundaries. -/
theorem spellings_agree : ∀ text : List Char, '\n' ∉ text → StartsSmall text → CapitalsApart text →
    replaceChar '-' '_' (substitute paramRule (replaceChar '_' '-' text)) =
      substitute snakeRule (replaceChar '-' '_' text)
  | [], _, _, _ => rfl
  | [c], _, _, _ => congrArg ([·]) (replaced_twice c)
  | c :: next :: rest, lines, starts, apart => by
      have later := List.not_mem_of_not_mem_cons lines
      have behind := (apart_cons_small c _ ((starts_small_cons_iff c _).mp starts)).mp apart
      cases upper : next.isUpper with
      | true =>
          have ⟨begins, restApart⟩ := (apart_cons_capital next rest upper).mp behind
          have agree := spellings_agree rest (List.not_mem_of_not_mem_cons later) begins restApart
          have dashes := replaced_not_line '_' '-' _ (by decide) lines
          have scores := replaced_not_line '-' '_' _ (by decide) lines
          have dashed := param_single (replaced '_' '-' c) next (replaceChar '_' '-' rest)
            (List.ne_of_not_mem_cons dashes).symm upper
            (replaced_starts_small '_' '-' rfl rfl rest begins)
          have scored := snake_boundary (replaced '-' '_' c) next (replaceChar '-' '_' rest)
            (List.ne_of_not_mem_cons scores).symm upper
          have lowered := replaced_other '-' '_' _ (lowered_not next '-' upper rfl)
          rw [replaced_cons, replaced_cons, replaced_capital '_' '-' rfl next upper, dashed,
            replaced_cons, replaced_twice, replaced_cons, replaced_cons, lowered, agree]
          rw [replaced_cons, replaced_cons, replaced_capital '-' '_' rfl next upper, scored]
          rfl
      | false =>
          have begins := (starts_small_cons_iff next rest).mpr upper
          have agree := spellings_agree (next :: rest) later begins behind
          have dashed := param_kept (replaced '_' '-' c) _
            (replaced_starts_small '_' '-' rfl rfl _ begins)
          have scored := snake_kept (replaced '-' '_' c) _
            (replaced_starts_small '-' '_' rfl rfl _ begins)
          rw [replaced_cons, dashed, replaced_cons, replaced_twice, agree, replaced_cons _ _ c,
            scored]

theorem snake_head (head : Char) (rest : List Char) (line : head ≠ '\n') :
    (substitute snakeRule (head :: rest)).head? = some head := by
  cases rest with
  | nil => rw [snake_kept head [] nofun, List.head?_cons]
  | cons next rest =>
      cases upper : next.isUpper with
      | true => rw [snake_boundary head next rest line upper, List.head?_cons]
      | false =>
          rw [snake_kept head _ ((starts_small_cons_iff next rest).mpr upper), List.head?_cons]

theorem snake_parts (text : List Char) (parts : ∀ c ∈ text, IsCompoundPart c ∧ c ≠ '-') :
    ∀ c ∈ substitute snakeRule text, IsCompoundPart c ∧ c ≠ '-' := by
  refine substituteAfter_all snakeRule (fun c => IsCompoundPart c ∧ c ≠ '-') ?_ 0 text parts
  intro part replacement more all found
  match part, found with
  | head :: capital :: rest, found =>
      have ⟨⟨_, upper⟩, same⟩ := Option.ite_none_right_eq_some.mp found
      have boundary : [head, '_', capital.toLower] = replacement :=
        congrArg Prod.fst (Option.some.inj same)
      have kind := all capital (List.mem_cons_of_mem head List.mem_cons_self)
      rw [← boundary, List.forall_mem_cons, List.forall_mem_cons, List.forall_mem_singleton]
      exact ⟨all head List.mem_cons_self, by decide, compound_lowered capital kind.1,
        lowered_not capital '-' upper rfl⟩

theorem replaced_parts (text : List Char) (parts : ∀ c ∈ text, IsCompoundPart c) :
    ∀ c ∈ replaceChar '-' '_' text, IsCompoundPart c ∧ c ≠ '-' := by
  refine List.forall_mem_map.mpr fun c member => ?_
  by_cases dash : c = '-'
  · rw [if_pos dash]
    decide
  · rw [if_neg dash]
    exact ⟨parts c member, dash⟩

theorem spellings_agree_iff (text : List Char) (lines : '\n' ∉ text) (starts : StartsSmall text) :
    substitute snakeRule (replaceChar '-' '_' text) =
        replaceChar '-' '_' (substitute paramRule (replaceChar '_' '-' text)) ↔
      CapitalsApart text := by
  refine ⟨fun same => ?_, fun apart => (spellings_agree text lines starts apart).symm⟩
  have dashed := param_small (replaceChar '_' '-' text) (replaced_not_line _ _ _ (by decide) lines)
    (replaced_starts_small _ _ rfl rfl _ starts)
  have small : Small (substitute snakeRule (replaceChar '-' '_' text)) := by
    rw [same]
    exact replaced_small '-' '_' rfl rfl _ dashed
  have split := (snake_small_iff _ (replaced_not_line _ _ _ (by decide) lines)).mp small
  exact (replaced_apart_iff '-' '_' rfl rfl text).mp split.2

/-- A spelling with underscores has a small first character and no dashes, so that spelling it again
only searches for boundaries. -/
theorem snake_again_iff (text : List Char) (parts : ∀ c ∈ text, IsCompoundPart c ∧ c ≠ '-')
    (starts : StartsSmall text) :
    snakeChars (substitute snakeRule text) = substitute snakeRule text ↔ CapitalsApart text := by
  cases text with
  | nil => exact iff_of_true rfl .nil
  | cons first rest =>
      have kind := parts first List.mem_cons_self
      have small := (starts_small_cons_iff first rest).mp starts
      have lines := compound_lines (first :: rest) fun c member => (parts c member).1
      have spelledParts := snake_parts _ parts
      have spelledLines := compound_lines _ fun c member => (spelledParts c member).1
      have dashes : '-' ∉ substitute snakeRule (first :: rest) := fun member =>
        (spelledParts '-' member).2 rfl
      have settled := snake_small_iff _ lines
      obtain ⟨more, spelled⟩ := List.head?_eq_some_iff.mp
        (snake_head first rest (compound_not_line first kind.1))
      rw [spelled] at dashes spelledLines settled ⊢
      rw [snakeChars, uncapitalized_ascii first more (compound_ascii first kind.1),
        Char.toLower_eq_of_not_isUpper (by simp [small]), replaced_absent _ _ _ dashes,
        snake_fixed_iff _ spelledLines ((starts_small_cons_iff first more).mpr small), settled]
      exact and_iff_right starts

/-- Of names of letters, digits and separators those without two capitals side by side, the first
character apart, are spelled with underscores as with dashes, without capitals and once for all. -/
theorem snake_spelling_iff (name : String) (parts : ∀ c ∈ name.toList, IsCompoundPart c) :
    (snakeCase name = String.ofList (replaceChar '-' '_' (paramCase name).toList) ↔
        CapitalsApart name.toList.tail) ∧
      ((∀ c ∈ (snakeCase name).toList, c.isUpper = false) ↔ CapitalsApart name.toList.tail) ∧
      (snakeCase (snakeCase name) = snakeCase name ↔ CapitalsApart name.toList.tail) := by
  simp only [snakeCase, paramCase, String.ofList_inj, String.toList_ofList]
  cases chars : name.toList with
  | nil =>
      exact ⟨iff_of_true rfl .nil, iff_of_true (List.forall_mem_nil _) .nil, iff_of_true rfl .nil⟩
  | cons first rest =>
      rw [chars] at parts
      have firstPart := parts first List.mem_cons_self
      have lowered := uncapitalized_ascii first rest (compound_ascii first firstPart)
      have loweredParts : ∀ c ∈ first.toLower :: rest, IsCompoundPart c :=
        List.forall_mem_cons.mpr ⟨compound_lowered first firstPart,
          fun c member => parts c (List.mem_cons_of_mem first member)⟩
      have lines := compound_lines _ loweredParts
      have starts : StartsSmall (first.toLower :: rest) :=
        (starts_small_cons_iff _ _).mpr (lowered_small first)
      have scored := replaced_starts_small '-' '_' rfl rfl _ starts
      have apart : CapitalsApart (replaceChar '-' '_' (first.toLower :: rest)) ↔
          CapitalsApart rest :=
        (replaced_apart_iff '-' '_' rfl rfl _).trans
          (apart_cons_small _ rest (lowered_small first))
      rw [List.tail_cons, snakeChars, paramChars, lowered]
      refine ⟨?_, ?_, ?_⟩
      · exact (spellings_agree_iff _ lines starts).trans
          (apart_cons_small _ rest (lowered_small first))
      · exact (snake_small_iff _ (replaced_not_line '-' '_' _ (by decide) lines)).trans
          ((and_iff_right scored).trans apart)
      · exact (snake_again_iff _ (replaced_parts _ loweredParts) scored).trans apart

theorem snake_spelling_iff_single_capitals :
    (∀ c ∈ "XMl-http_2Go".toList, IsCompoundPart c) ∧ CapitalsApart "XMl-http_2Go".toList.tail ∧
      snakeCase "XMl-http_2Go" = "x_ml_http_2_go" ∧
      snakeCase (snakeCase "XMl-http_2Go") = snakeCase "XMl-http_2Go" := by
  have parts : ∀ c ∈ "XMl-http_2Go".toList, IsCompoundPart c :=
    List.all_iff_forall_prop.mp (by decide)
  have apart : CapitalsApart "XMl-http_2Go".toList.tail := by decide
  exact ⟨parts, apart, by decide, (snake_spelling_iff _ parts).2.2.mpr apart⟩

/-- Of a run of two capitals only the first is lowered with underscores. -/
theorem capital_run_left :
    (∀ c ∈ "dataID".toList, IsCompoundPart c) ∧ snakeCase "dataID" = "data_iD" ∧
      paramCase "dataID" = "data-id" ∧ snakeCase (snakeCase "dataID") = "data_i_d" :=
  ⟨List.all_iff_forall_prop.mp (by decide), by decide, by decide, by decide⟩

end MarkupTemplate
