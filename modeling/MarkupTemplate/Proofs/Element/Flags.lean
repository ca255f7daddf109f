import MarkupTemplate.Proofs.Element.RoundTrip
import MarkupTemplate.Proofs.Template.Path
import MarkupTemplate.Proofs.Text.Dashed

/-!
Truth values as attributes. A true one is written as its bare key, a false one with `no-` in front,
and the reader takes that for the mark of a false one wherever a bare key begins with it. Main
statement: an attribute of letters and digits reads back as it was, except a true one whose own
first word is `no`, which reads back as a false one of the words behind it.
-/

namespace MarkupTemplate

/-- A character of the dashed spelling of a name of letters and digits. -/
def IsNamePart (c : Char) : Prop := c.isAlphanum = true ∨ c = '-'

theorem name_part_not_blank (c : Char) (part : IsNamePart c) : isBlank c = false := by
  rcases part with alphanum | rfl
  · exact path_not_blank c (by simp [isPathPart, alphanum])
  · decide

theorem name_part_unmarked (c : Char) (part : IsNamePart c) : c ∉ Setting.keyMarks false := by
  have all : (Setting.keyMarks false).all (fun mark => !mark.isAlphanum && mark != '-') = true := by
    decide
  intro mark
  have none := List.all_eq_true.mp all c mark
  rcases part with alphanum | rfl
  · rw [alphanum] at none
    cases none
  · cases none

theorem name_word (name : List Char) (filled : name ≠ []) (parts : ∀ c ∈ name, IsNamePart c) :
    IsWord (Setting.keyMarks false) name :=
  ⟨filled, fun c member =>
    ⟨name_part_not_blank c (parts c member), name_part_unmarked c (parts c member)⟩⟩

-- The first letter is lowered, and there is no underscore to replace.
theorem param_plain (first : Char) (rest : List Char)
    (plain : ∀ c ∈ first :: rest, c.isAlphanum = true) :
    paramChars (first :: rest) = substitute paramRule (first.toLower :: rest) ∧
      ∀ c ∈ first.toLower :: rest, c.isAlphanum = true := by
  obtain ⟨start, behind⟩ := List.forall_mem_cons.mp plain
  have all : ∀ c ∈ first.toLower :: rest, c.isAlphanum = true :=
    List.forall_mem_cons.mpr ⟨lowered_alphanum first start, behind⟩
  have unmarked : '_' ∉ first.toLower :: rest := fun member =>
    alphanum_not '_' (all '_' member) '_' rfl rfl
  exact ⟨param_ascii first rest (alphanum_ascii first start) unmarked, all⟩

theorem param_parts (key : List Char) (plain : ∀ c ∈ key, c.isAlphanum = true) :
    ∀ c ∈ paramChars key, IsNamePart c := by
  cases key with
  | nil => exact nofun
  | cons first rest =>
      obtain ⟨spelled, all⟩ := param_plain first rest plain
      rw [spelled]
      exact param_all IsNamePart (.inr rfl) (fun c _ upper => .inl (lowered_capital c upper)) _
        fun c member => .inl (all c member)

/-- The first word is `no`, and another one follows. -/
def beginsNo : List Char → Bool
  | 'n' :: 'o' :: capital :: _ => capital.isUpper
  | _ => false

theorem param_capital (head capital : Char) (rest : List Char) (line : head ≠ '\n')
    (upper : capital.isUpper = true) :
    ∃ behind, behind ≠ [] ∧
      substitute paramRule (head :: capital :: rest) = head :: '-' :: behind := by
  have found : paramRule (head :: capital :: rest) =
      some (head :: '-' :: (capital :: rest.takeWhile Char.isUpper).map Char.toLower,
        (capital :: rest.takeWhile Char.isUpper).length) := by
    rw [paramRule, List.takeWhile_cons_of_pos upper]
    exact if_neg line
  rw [substitute_found paramRule head _ _ _ found]
  exact ⟨_, by simp, rfl⟩

section

variable (key : List Char) (plain : ∀ c ∈ key, c.isAlphanum = true)

include plain

theorem begins_no_dashed (begins : beginsNo key = true) :
    ∃ name, name ≠ [] ∧ paramChars key = ['n', 'o', '-'] ++ name := by
  unfold beginsNo at begins
  split at begins
  · rename_i capital rest
    obtain ⟨name, filled, bound⟩ := param_capital 'o' capital rest (by decide) begins
    have kept := param_kept 'n' ('o' :: capital :: rest) fun c first => by cases first; rfl
    have spelled := (param_plain 'n' _ plain).1
    have same : 'n'.toLower = 'n' := by decide
    rw [spelled, same, kept, bound]
    exact ⟨name, filled, rfl⟩
  · cases begins

-- The letter behind the dash comes back as a capital, since no dash is left in the name.
theorem dashed_begins_no (camel : camelChars (paramChars key) = key)
    (dashed : ['n', 'o', '-'] <+: paramChars key) : beginsNo key = true := by
  obtain ⟨behind, split⟩ := dashed
  have whole : key = 'n' :: 'o' :: camelChars ('-' :: behind) := by
    rw [← camel, ← split]
    exact camel_unmarked ['n', 'o'] ('-' :: behind) (by simp)
  have undashed : '-' ∉ key := fun member => alphanum_not '-' (plain '-' member) '-' rfl rfl
  cases behind with
  | nil => exact absurd (whole ▸ by decide : '-' ∈ key) undashed
  | cons letter rest =>
      by_cases joins : Joins '-' letter
      · rw [whole, camel_joined '-' letter rest joins]
        exact capital_upper letter joins.2
      · rw [whole, camel_kept '-' letter rest joins] at undashed
        simp at undashed

end

namespace Element

/-- An element with one truth value. -/
def flagged (key : String) (truth : Bool) : Element := ⟨"x", [(key, .bool truth)], []⟩

theorem flagged_reads_back (key : String) (truth : Bool)
    (canonical : CanonicalAttr (key, .bool truth)) :
    parse (markup (flagged key truth)) = [flagged key truth] := by
  have attrs : CanonicalAttrs [(key, .bool truth)] :=
    ⟨List.nodup_singleton key, fun entry member => List.mem_singleton.mp member ▸ canonical⟩
  have all : Canonical [flagged key truth] :=
    .element "x" [(key, .bool truth)] [] [] (by decide) (by decide) attrs .nil .nil
  have shallow : allDepth [flagged key truth] ≤ maxDepth - 1 := by
    simp [flagged, allDepth, depth, maxDepth]
  have read := parse_arranged _ all shallow
  have alone : allMarkup [flagged key truth] = markup (flagged key truth) := String.append_empty
  rw [alone] at read
  exact read

theorem flagged_negated (key name : String) (spelled : paramCase key = "no-" ++ name)
    (word : IsWord (Setting.keyMarks false) name.toList) :
    parse (markup (flagged key true)) = [new "x" [(name, .bool false)] []] := by
  have legible : ∀ entry ∈ [(name, Setting.no)], Setting.Legible false entry := by
    intro entry member
    rw [List.mem_singleton.mp member]
    exact ⟨word, trivial⟩
  have attrs : attrsMarkup [(key, .bool true)] = Setting.printAll [(name, .no)] := by
    change String.join [" " ++ paramCase key] = String.join [" no-" ++ name]
    rw [spelled]
    rfl
  have written : markup (flagged key true) = Setting.aloneMarkup "x" [(name, .no)] := by
    rw [flagged, markup, attrs]
    rfl
  rw [written]
  exact Setting.alone_renders Reader.plain "x" [(name, .no)] [] (by decide) legible
    (List.nodup_singleton name)

-- A key for the children leaves no attribute, and any other one stays false.
theorem negated_apart (key name : String) :
    new "x" [(name, .bool false)] [] ≠ flagged key true := by
  intro same
  by_cases children : name = childrenKey
  · rw [children] at same
    have lengths := congrArg (fun element => element.children.length) same
    cases lengths
  · rw [new_single "x" name (.bool false) [] (by decide) children rfl] at same
    cases same

section

variable (key : String) (plain : ∀ c ∈ key.toList, c.isAlphanum = true)

include plain

theorem begins_no_reads_false (begins : beginsNo key.toList = true) :
    ∃ name, paramCase key = "no-" ++ name ∧
      parse (markup (flagged key true)) = [new "x" [(name, .bool false)] []] := by
  obtain ⟨name, filled, split⟩ := begins_no_dashed key.toList plain begins
  have spelled : paramCase key = "no-" ++ String.ofList name := by
    rw [← String.toList_inj, paramCase, String.toList_ofList, split]
    simp
  have parts : ∀ c ∈ name, IsNamePart c := fun c member =>
    param_parts key.toList plain c (split ▸ List.mem_append_right _ member)
  have word : IsWord (Setting.keyMarks false) (String.ofList name).toList := by
    rw [String.toList_ofList]
    exact name_word name filled parts
  exact ⟨String.ofList name, spelled, flagged_negated key _ spelled word⟩

theorem flag_canonical (truth : Bool) (filled : key ≠ "") (camel : camelCase (paramCase key) = key)
    (named : key ≠ childrenKey) (apart : ¬(truth = true ∧ beginsNo key.toList = true)) :
    CanonicalAttr (key, .bool truth) where
  spelled := camel
  named := named
  word := by
    have chars : (paramCase key).toList = paramChars key.toList := String.toList_ofList
    refine name_word _ ?_ (chars ▸ param_parts key.toList plain)
    -- An empty spelling leads back to an empty key.
    intro empty
    rw [String.toList_eq_nil_iff.mp empty] at camel
    exact filled camel.symm
  written := .inr ⟨truth, rfl⟩
  affirmed := by
    intro affirmed dashed
    rw [camelCase, paramCase, String.toList_ofList] at camel
    rw [paramCase, String.toList_ofList] at dashed
    have back : camelChars (paramChars key.toList) = key.toList := by
      rw [← String.toList_ofList (l := camelChars _), camel]
    exact apart ⟨Value.bool.inj affirmed, dashed_begins_no key.toList plain back dashed⟩

end

/-- An element with one truth value reads back as it was, a true one whose key begins with the word
`no` apart. That one reads back as a false one of the words behind it. -/
theorem flag_reads_back_iff (key : String) (truth : Bool) (filled : key ≠ "")
    (plain : ∀ c ∈ key.toList, c.isAlphanum = true) (camel : camelCase (paramCase key) = key)
    (named : key ≠ childrenKey) :
    (parse (markup (flagged key truth)) = [flagged key truth] ↔
        ¬(truth = true ∧ beginsNo key.toList = true)) ∧
      (beginsNo key.toList = true → ∃ name, paramCase key = "no-" ++ name ∧
        parse (markup (flagged key true)) = [new "x" [(name, .bool false)] []]) := by
  have inverted := begins_no_reads_false key plain
  refine ⟨⟨?_, ?_⟩, inverted⟩
  · rintro back ⟨rfl, begins⟩
    obtain ⟨name, -, read⟩ := inverted begins
    exact negated_apart key name (List.cons.inj (read.symm.trans back)).1
  · intro apart
    exact flagged_reads_back key truth (flag_canonical key plain truth filled camel named apart)

theorem flag_reads_back_iff_words :
    (∀ c ∈ "notDone2".toList, c.isAlphanum = true) ∧
      camelCase (paramCase "notDone2") = "notDone2" ∧
      parse (markup (flagged "notDone2" true)) = [flagged "notDone2" true] := by
  have plain : ∀ c ∈ "notDone2".toList, c.isAlphanum = true := by simp
  have camel : camelCase (paramCase "notDone2") = "notDone2" := by decide
  have back := flag_reads_back_iff "notDone2" true (by decide) plain camel (by decide)
  exact ⟨plain, camel, back.1.mpr (by decide)⟩

/-- One markup of two elements. -/
theorem no_wrap_reads_false :
    (∀ c ∈ "noWrap".toList, c.isAlphanum = true) ∧ camelCase (paramCase "noWrap") = "noWrap" ∧
      markup (flagged "noWrap" true) = markup (flagged "wrap" false) ∧
      parse (markup (flagged "noWrap" true)) ≠ [flagged "noWrap" true] := by
  have read := flagged_negated "noWrap" "wrap" (by decide) (by decide)
  refine ⟨by simp, by decide, by decide, ?_⟩
  intro back
  exact negated_apart "noWrap" "wrap" (List.cons.inj (read.symm.trans back)).1

end Element

end MarkupTemplate
