import MarkupTemplate.Proofs.Expr.Acceptance
import MarkupTemplate.Proofs.Expr.Identifier
import MarkupTemplate.Proofs.Token.Tags
import MarkupTemplate.Template.Directive

/-!
The texts that directives carry. Blanks at the ends of an expression do not
change its value, so the blank behind the name of a directive is none of its
expression. The text of a loop falls apart at the word `as`.
-/

namespace MarkupTemplate

-- The same trimmed text is the same expression.
theorem parse_trimmed (left right : String) (same : trim left.toList = trim right.toList)
    (expr : Expr) (read : Expr.parse left = .ok expr) : Expr.parse right = .ok expr := by
  have lexed : Expr.lex left = Expr.lex right := by rw [Expr.lex, Expr.lex, same]
  obtain ⟨clean, terms, few, derives⟩ := Expr.parse_sound left expr read
  rw [lexed] at clean derives
  exact Expr.parse_complete right expr terms clean few derives

theorem evaluate_trimmed (scope : Scope) (left right : String)
    (same : trim left.toList = trim right.toList) : scope.evaluate left = scope.evaluate right := by
  cases read : Expr.parse left with
  | ok expr =>
      have other := parse_trimmed left right same expr read
      simp [Scope.evaluate, Expr.evaluate, read, other]
  | error failure =>
      -- The other text fails too, since otherwise this one would be accepted.
      cases other : Expr.parse right with
      | ok expr =>
          have back := parse_trimmed right left same.symm expr other
          rw [read] at back
          cases back
      | error later => simp [Scope.evaluate, Expr.evaluate, read, other, bind, Except.bind]

theorem interpolate_trimmed (scope : Scope) (left right : String)
    (same : trim left.toList = trim right.toList) :
    scope.interpolate left = scope.interpolate right := by
  rw [Scope.interpolate, Scope.interpolate, same]

-- Blanks, and then the word that ends the text of the items.
theorem as_word_found (blanks name : List Char) (blank : ∀ c ∈ blanks, isBlank c = true)
    (identifier : Expr.IsIdentifier name) :
    asWord? (blanks ++ " as ".toList ++ name) = some (blanks.length + 4) := by
  have dark : ∀ c ∈ name.head?, isBlank c = false := by
    intro c first
    exact Expr.part_not_blank c (Expr.identifier_parts name identifier c (List.mem_of_head? first))
  have lead : ∀ c ∈ blanks ++ [' '], isBlank c = true :=
    List.forall_mem_append.mpr ⟨blank, by simp⟩
  have letter : isBlank 'a' = false := by decide
  have before := span_word isBlank (blanks ++ [' ']) ('a' :: 's' :: ' ' :: name) lead
    (by simp [letter])
  have behind := span_word isBlank [' '] name (by simp) dark
  have whole : blanks ++ " as ".toList ++ name = (blanks ++ [' ']) ++ 'a' :: 's' :: ' ' :: name := by
    simp
  have after : (' ' :: name).takeWhile isBlank = [' '] := behind.1
  rw [whole, asWord?, before.2, before.1]
  simp [after]

theorem as_word_none (core tail : List Char) (dark : ∃ c ∈ core, isBlank c = false)
    (word : ¬ ['a', 's'] <:+: core) (begins : ∀ c ∈ tail.head?, isBlank c = true) :
    asWord? (core ++ tail) = none := by
  have inside : core.dropWhile isBlank <:+: core := (List.dropWhile_suffix isBlank).isInfix
  have filled : core.dropWhile isBlank ≠ [] := by
    intro nothing
    obtain ⟨c, member, dark⟩ := dark
    have spans := List.takeWhile_append_dropWhile (p := isBlank) (l := core)
    rw [nothing, List.append_nil] at spans
    rw [← spans] at member
    have blank := List.all_eq_true.mp List.all_takeWhile c member
    rw [dark] at blank
    cases blank
  -- The two letters would stand in the core, or the second of them would be the blank behind it.
  have apart : ∀ rest, (core ++ tail).dropWhile isBlank ≠ 'a' :: 's' :: rest := by
    intro rest found
    rw [List.dropWhile_append, if_neg (by simp [filled])] at found
    cases left : core.dropWhile isBlank with
    | nil => exact filled left
    | cons d more =>
        rw [left] at found inside
        obtain ⟨rfl, follows⟩ := List.cons.inj found
        cases more with
        | nil =>
            have next : tail = 's' :: rest := follows
            have blank := begins 's' (by rw [next]; rfl)
            exact absurd blank (by decide)
        | cons e more =>
            obtain ⟨rfl, _⟩ := List.cons.inj follows
            exact word (List.IsInfix.trans ⟨[], more, rfl⟩ inside)
  unfold asWord?
  split
  · rename_i rest found
    exact (apart rest found).elim
  · rfl

-- The text of a loop falls apart into the text of its items and the name of an item.
theorem split_as_printed (core blanks name : List Char)
    (ends : ∀ c ∈ core.getLast?, isBlank c = false) (word : ¬ ['a', 's'] <:+: core)
    (blank : ∀ c ∈ blanks, isBlank c = true) (identifier : Expr.IsIdentifier name) :
    splitAs (core ++ (blanks ++ " as ".toList ++ name)) = some (core, name) := by
  induction core with
  | nil =>
      have found := as_word_found blanks name blank identifier
      have behind : (blanks ++ " as ".toList ++ name).drop (blanks.length + 4) = name := by
        have length : (blanks ++ " as ".toList).length = blanks.length + 4 := by simp
        rw [← length, List.drop_left]
      rw [List.nil_append]
      cases text : blanks ++ " as ".toList ++ name with
      | nil => simp at text
      | cons c rest =>
          rw [text] at found behind
          rw [splitAs, found]
          simp [behind]
  | cons c core ih =>
      have begins : ∀ d ∈ (blanks ++ " as ".toList ++ name).head?, isBlank d = true := by
        cases blanks with
        | nil => simp
        | cons b blanks =>
            intro d first
            cases first
            exact blank b List.mem_cons_self
      have dark : ∃ d ∈ c :: core, isBlank d = false :=
        ⟨_, List.getLast_mem (List.cons_ne_nil c core), ends _ (List.getLast?_eq_some_getLast _)⟩
      -- No split at this character, so the split further on counts.
      have further : splitAs (core ++ (blanks ++ " as ".toList ++ name)) = some (core, name) := by
        refine ih ?_ fun inside => word (inside.trans (List.suffix_cons c core).isInfix)
        intro d last
        apply ends d
        cases core with
        | nil => cases last
        | cons e core => exact last
      have none := as_word_none (c :: core) _ dark word begins
      rw [List.cons_append] at none ⊢
      rw [splitAs, none]
      simp only [further, Option.map_some]

end MarkupTemplate
