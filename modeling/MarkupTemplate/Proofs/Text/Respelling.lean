import MarkupTemplate.Proofs.Text.Underscored

/-!
The spelling with dashes once more. The search for word boundaries passes a capital over only where
it stands right behind a line feed, and such a capital is passed over again. Main statement: an
ASCII name that is spelled with dashes is its own spelling, and if it is of one line, no capitals
and no underscores are left in it.
-/

namespace MarkupTemplate

/-- Behind the first character capitals stand only at the start of a line. -/
def CapitalsOpenLines (text : List Char) : Prop :=
  text.IsChain fun c next => next.isUpper = true → c = '\n'

theorem opens_lines_cons_small (c : Char) (text : List Char) (small : StartsSmall text) :
    CapitalsOpenLines (c :: text) ↔ CapitalsOpenLines text := by
  rw [CapitalsOpenLines, List.isChain_cons]
  refine and_iff_right fun next begins upper => ?_
  rw [small next begins] at upper
  cases upper

theorem opens_lines_append_small (front rest : List Char) (small : Small front)
    (starts : StartsSmall rest) (opens : CapitalsOpenLines rest) :
    CapitalsOpenLines (front ++ rest) := by
  induction front with
  | nil => exact opens
  | cons c front ih =>
      have later := (small_cons_iff c front).mp small
      refine (opens_lines_cons_small c _ ?_).mpr (ih later.2)
      cases front with
      | nil => exact starts
      | cons next front =>
          exact (starts_small_cons_iff next _).mpr (later.2 next List.mem_cons_self)

theorem param_line (rest : List Char) :
    substitute paramRule ('\n' :: rest) = '\n' :: substitute paramRule rest := by
  apply substitute_kept
  rw [paramRule]
  split <;> rfl

/-- Whatever follows it, the first character stays. -/
theorem param_head (text : List Char) : (substitute paramRule text).head? = text.head? := by
  cases text with
  | nil => rfl
  | cons head rest =>
      rw [List.head?_cons]
      cases found : paramRule (head :: rest) with
      | none => rw [substitute_kept _ _ _ found, List.head?_cons]
      | some boundary =>
          rw [substitute_found _ _ _ boundary.1 boundary.2 found]
          rw [paramRule] at found
          split at found
          · cases found
          · split at found <;> cases found
            rfl

theorem param_starts_small (text : List Char) (starts : StartsSmall text) :
    StartsSmall (substitute paramRule text) := by
  rwa [StartsSmall, param_head]

/-- A capital is taken into a boundary by the character in front of it, unless a line ends there. -/
theorem param_opens_lines (text : List Char) : CapitalsOpenLines (substitute paramRule text) := by
  induction size : text.length using Nat.strong_induction_on generalizing text with
  | _ total ih =>
      cases text with
      | nil => exact .nil
      | cons head rest =>
          have parts : rest.takeWhile Char.isUpper ++ rest.dropWhile Char.isUpper = rest :=
            List.takeWhile_append_dropWhile
          have behind := starts_small_behind rest
          cases run : rest.takeWhile Char.isUpper with
          | nil =>
              rw [run, List.nil_append] at parts
              rw [parts] at behind
              rw [param_kept head rest behind]
              have later := ih rest.length (by simp [← size]) rest rfl
              exact (opens_lines_cons_small head _ (param_starts_small rest behind)).mpr later
          | cons capital more =>
              by_cases line : head = '\n'
              · subst line
                rw [param_line]
                have later := ih rest.length (by simp [← size]) rest rfl
                exact List.isChain_cons.mpr ⟨fun _ _ _ => rfl, later⟩
              · have upper : ∀ c ∈ capital :: more, c.isUpper = true := fun c member =>
                  List.mem_takeWhile_imp (run ▸ member)
                have shorter : (rest.dropWhile Char.isUpper).length < total :=
                  size ▸ Nat.lt_succ_of_le (List.length_dropWhile_le Char.isUpper rest)
                have later := ih _ shorter _ rfl
                rw [run] at parts
                have filled := List.cons_ne_nil capital more
                rw [← parts, param_boundary head _ _ line filled upper behind]
                have lowered : Small ('-' :: (capital :: more).map Char.toLower) :=
                  (small_cons_iff _ _).mpr
                    ⟨rfl, List.forall_mem_map.mpr fun c _ => lowered_small c⟩
                refine (opens_lines_cons_small head _ ((starts_small_cons_iff _ _).mpr rfl)).mpr ?_
                exact opens_lines_append_small _ _ lowered (param_starts_small _ behind) later

/-- Where capitals only open lines, no boundary is found. -/
theorem param_fixed (text : List Char) (opens : CapitalsOpenLines text) :
    substitute paramRule text = text := by
  induction text with
  | nil => rfl
  | cons head rest ih =>
      obtain ⟨first, later⟩ := List.isChain_cons.mp opens
      by_cases line : head = '\n'
      · rw [line, param_line, ih later]
      · have small : StartsSmall rest := fun c begins =>
          Bool.eq_false_iff.mpr fun upper => line (first c begins upper)
        rw [param_kept head rest small, ih later]

theorem lowered_ascii (c : Char) (ascii : c.toNat < 128) : c.toLower.toNat < 128 := by
  by_cases upper : c.isUpper = true
  · exact alphanum_ascii _ (lowered_capital c upper)
  · rwa [Char.toLower_eq_of_not_isUpper upper]

/-- What is searched for boundaries: the first character is no capital any more, and underscores
have become dashes. -/
structure Prepared (text : List Char) : Prop where
  starts : StartsSmall text
  ascii : ∀ c ∈ text, c.toNat < 128
  unmarked : '_' ∉ text

theorem prepared (name : List Char) (ascii : ∀ c ∈ name, c.toNat < 128) :
    Prepared (replaceChar '_' '-' (uncapitalizeChars name)) := by
  cases name with
  | nil => exact ⟨nofun, nofun, nofun⟩
  | cons first rest =>
      obtain ⟨here, later⟩ := List.forall_mem_cons.mp ascii
      have all : ∀ c ∈ first.toLower :: rest, c.toNat < 128 :=
        List.forall_mem_cons.mpr ⟨lowered_ascii first here, later⟩
      rw [uncapitalized_ascii first rest here]
      refine ⟨?_, ?_, ?_⟩
      · refine replaced_starts_small '_' '-' rfl rfl _ ?_
        exact (starts_small_cons_iff _ _).mpr (lowered_small first)
      · refine List.forall_mem_map.mpr fun c member => ?_
        split
        · decide
        · exact all c member
      · intro member
        obtain ⟨c, _, same⟩ := List.mem_map.mp member
        split at same
        · exact absurd same (by decide)
        · contradiction

theorem Prepared.searched {text : List Char} (plain : Prepared text) :
    Prepared (substitute paramRule text) where
  starts := param_starts_small text plain.starts
  ascii := param_all (·.toNat < 128) (by decide) (fun c ascii _ => lowered_ascii c ascii) text
    plain.ascii
  unmarked := by
    have kept := param_all (· ≠ '_') (by decide) (fun c _ upper => lowered_not c '_' upper rfl) text
      fun c member same => plain.unmarked (same ▸ member)
    exact fun member => kept '_' member rfl

/-- Such a text needs no preparation. -/
theorem Prepared.kept {text : List Char} (plain : Prepared text) :
    replaceChar '_' '-' (uncapitalizeChars text) = text := by
  cases text with
  | nil => rfl
  | cons first rest =>
      have small := (starts_small_cons_iff first rest).mp plain.starts
      rw [uncapitalized_ascii first rest (plain.ascii first List.mem_cons_self),
        Char.toLower_eq_of_not_isUpper (by simp [small]), replaced_absent _ _ _ plain.unmarked]

theorem prepared_lines (name : List Char) (ascii : ∀ c ∈ name, c.toNat < 128)
    (lines : '\n' ∉ name) : '\n' ∉ replaceChar '_' '-' (uncapitalizeChars name) := by
  refine replaced_not_line '_' '-' _ (by decide) ?_
  cases name with
  | nil => exact nofun
  | cons first rest =>
      obtain ⟨here, later⟩ := List.ne_and_not_mem_of_not_mem_cons lines
      rw [uncapitalized_ascii first rest (ascii first List.mem_cons_self)]
      refine List.not_mem_cons_of_ne_of_not_mem ?_ later
      by_cases upper : first.isUpper = true
      · exact (lowered_not first '\n' upper rfl).symm
      · rwa [Char.toLower_eq_of_not_isUpper upper]

/-- An ASCII name spelled with dashes is an ASCII name and its own spelling. Capitals are left in it
only behind line feeds, and underscores nowhere. -/
theorem param_case_normal (name : String) (ascii : ∀ c ∈ name.toList, c.toNat < 128) :
    paramCase (paramCase name) = paramCase name ∧
      (∀ c ∈ (paramCase name).toList, c.toNat < 128) ∧
      ('\n' ∉ name.toList → ∀ c ∈ (paramCase name).toList, c.isUpper = false ∧ c ≠ '_') := by
  have plain := prepared name.toList ascii
  have spelled := plain.searched
  simp only [paramCase, String.ofList_inj, String.toList_ofList]
  rw [paramChars, paramChars, spelled.kept]
  refine ⟨param_fixed _ (param_opens_lines _), spelled.ascii, fun lines c member => ⟨?_, ?_⟩⟩
  · exact param_small _ (prepared_lines name.toList ascii lines) plain.starts c member
  · exact fun same => spelled.unmarked (same ▸ member)

theorem param_case_normal_runs :
    (∀ c ∈ "XMLHttp_2GO".toList, c.toNat < 128) ∧ '\n' ∉ "XMLHttp_2GO".toList ∧
      paramCase "XMLHttp_2GO" = "x-mlhttp-2-go" ∧
      paramCase (paramCase "XMLHttp_2GO") = paramCase "XMLHttp_2GO" ∧
      ∀ c ∈ (paramCase "XMLHttp_2GO").toList, c.isUpper = false ∧ c ≠ '_' := by
  have ascii : ∀ c ∈ "XMLHttp_2GO".toList, c.toNat < 128 := List.all_iff_forall_prop.mp (by decide)
  have lines : '\n' ∉ "XMLHttp_2GO".toList := by decide
  obtain ⟨same, _, small⟩ := param_case_normal "XMLHttp_2GO" ascii
  exact ⟨ascii, lines, by decide, same, small lines⟩

-- Behind a line feed a capital stays, and opens a boundary for those behind it.
example : paramCase "a\nBCd" = "a\nB-cd" := by decide

end MarkupTemplate
