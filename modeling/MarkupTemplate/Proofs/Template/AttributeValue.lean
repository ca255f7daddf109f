import MarkupTemplate.Proofs.Element.Attributes
import MarkupTemplate.Proofs.Template.DirectiveText

/-!
Expressions as the values of attributes. A tag ends at the first closing angle bracket, also where
that is an operator of an expression inside it. Main statement: a tag is read whole exactly where
its expression is without that bracket, and then the attribute has the value that the expression
has anywhere else.
-/

namespace MarkupTemplate

theorem follow_path_present (found : Option Value) (names : List String) :
    (followPath found names).isNull = false := by
  induction names generalizing found with
  | nil =>
      cases found with
      | none => rfl
      | some value => cases value <;> rfl
  | cons name rest ih =>
      rw [follow_path_step]
      exact ih _

theorem evaluate_present (scope : Scope) (text : String) :
    (scope.evaluate text).isNull = false := by
  rw [Scope.evaluate]
  split
  · rfl
  · rename_i value present _
    cases value with
    | null => exact absurd rfl present
    | bool | int | float | string | list | map | record => rfl
  · rfl

/-- An expression that is null prints the empty text, so what it prints is never null. -/
theorem interpolate_present (scope : Scope) (text : String) :
    (scope.interpolate text).isNull = false := by
  rw [Scope.interpolate]
  split
  · rw [Scope.lookUpPath]
    split
    · rfl
    · exact follow_path_present _ _
  · exact evaluate_present scope _

theorem parsed_filled (source : String) (expr : Expr) (read : Expr.parse source = .ok expr) :
    source.toList ≠ [] := by
  intro empty
  rw [String.toList_eq_nil_iff.mp empty] at read
  cases read

/-- A tag with one attribute, which is given as an expression. -/
def expressionTag (source : String) : String := "<x k=\x7b" ++ source ++ "\x7d/>"

def expressionSettings (source : String) : List (String × Setting) := [("k", .expression source)]

/-- What follows the name of the tag. -/
def expressionExtra (source : String) : List Char :=
  (Setting.printAll (expressionSettings source)).toList

theorem expression_tag_alone (source : String) :
    expressionTag source = Setting.aloneMarkup "x" (expressionSettings source) := by
  simp [expressionTag, expressionSettings, Setting.aloneMarkup, Setting.printAll, Setting.print,
    ← String.toList_inj]

section

variable (source : String) (filled : source.toList ≠ []) (closed : '}' ∉ source.toList)
  (unmarked : '>' ∉ source.toList)

include filled closed unmarked

theorem expression_legible : ∀ entry ∈ expressionSettings source, Setting.Legible true entry := by
  intro entry member
  rw [List.mem_singleton.mp member]
  have word : IsWord (Setting.keyMarks true) "k".toList := by decide
  exact ⟨word, rfl, filled, closed, unmarked⟩

/-- A tag is one token where no bracket in its expression closes it early. -/
theorem expression_tag_whole :
    tokenize true (expressionTag source) =
      [.token (Scan.aloneTag ['x'] (expressionExtra source))] := by
  rw [expression_tag_alone]
  exact Setting.alone_tokenized true "x" (expressionSettings source) (by decide)
    (expression_legible source filled closed unmarked)

theorem expression_tag_renders (context : Dict Value) :
    render (expressionTag source) context =
      [⟨"x", [("k", (Scope.root context).interpolate source)], []⟩] := by
  have rendered := Setting.alone_renders Reader.template "x" (expressionSettings source) context
    (by decide) (expression_legible source filled closed unmarked) (List.nodup_singleton _)
  have built := Element.new_single "x" "k" ((Scope.root context).interpolate source) []
    (by decide) (by decide) (interpolate_present _ source)
  rw [expression_tag_alone, render, rendered]
  exact congrArg (· :: []) built

end

-- The token ends at the bracket, and the whole tag is longer.
theorem expression_tag_cut (source : String) (marked : '>' ∈ source.toList) :
    tokenize true (expressionTag source) ≠
      [.token (Scan.aloneTag ['x'] (expressionExtra source))] := by
  rcases List.eq_append_cons_of_mem marked with ⟨before, behind, split, absent⟩
  have chars : (expressionTag source).toList =
      '<' :: (("x k=\x7b".toList ++ before) ++ '>' :: (behind ++ "\x7d/>".toList)) := by
    simp [expressionTag, split]
  have unmarked : '>' ∉ "x k=\x7b".toList ++ before := by simp [absent]
  have read := Scan.pieces_tag true true [] ("x k=\x7b".toList ++ before)
    (behind ++ "\x7d/>".toList) unmarked (by simp)
  rw [tokenize, chars, read, List.reverse_nil, Scan.text_piece_nothing, List.nil_append]
  intro same
  have token : Scan.tagOf ("x k=\x7b".toList ++ before) =
      Scan.aloneTag ['x'] (expressionExtra source) := Piece.token.inj (List.cons.inj same).1
  have lengths := congrArg (fun token => token.source.toList.length) token
  simp [Scan.tagOf, Scan.aloneTag, expressionExtra, expressionSettings, Setting.printAll,
    Setting.print, split] at lengths

/-- The tag of an accepted expression is read whole exactly where the expression has no closing
bracket. It is then one element with one attribute, which has the value of the expression. -/
theorem expression_tag_whole_iff (source : String) (context : Dict Value)
    (accepted : ∃ expr, Expr.parse source = .ok expr) (closed : '}' ∉ source.toList) :
    (tokenize true (expressionTag source) =
        [.token (Scan.aloneTag ['x'] (expressionExtra source))] ↔ '>' ∉ source.toList) ∧
      ('>' ∉ source.toList → render (expressionTag source) context =
        [⟨"x", [("k", (Scope.root context).interpolate source)], []⟩]) := by
  rcases accepted with ⟨expr, read⟩
  have filled := parsed_filled source expr read
  constructor
  · constructor
    · intro whole marked
      exact expression_tag_cut source marked whole
    · exact expression_tag_whole source filled closed
  · intro unmarked
    exact expression_tag_renders source filled closed unmarked context

/-- An expression with blanks at its ends, and with opening brackets and a slash in its texts. -/
def sampleExpression : String := " xs[1] <= \"</a\" && \"\x7b/\" != 'c' "

theorem expression_tag_whole_iff_texts :
    (∃ expr, Expr.parse sampleExpression = .ok expr) ∧ '}' ∉ sampleExpression.toList ∧
      '>' ∉ sampleExpression.toList ∧
      render (expressionTag sampleExpression) [("xs", .list [])] =
        [⟨"x", [("k", (Scope.root [("xs", .list [])]).interpolate sampleExpression)], []⟩] := by
  have accepted : ∃ expr, Expr.parse sampleExpression = .ok expr := ⟨_, by rfl⟩
  have closed : '}' ∉ sampleExpression.toList := by decide
  have unmarked : '>' ∉ sampleExpression.toList := by decide
  have whole := expression_tag_whole_iff sampleExpression [("xs", .list [])] accepted closed
  exact ⟨accepted, closed, unmarked, whole.2 unmarked⟩

/-- A comparison is cut at its operator: what stands before it is read as keys, and the rest of the
tag as a text inside. -/
theorem comparison_closes_tag :
    (∃ expr, Expr.parse "2 > 1" = .ok expr) ∧ '}' ∉ "2 > 1".toList ∧
      render (expressionTag "2 > 1") [] ≠
        [⟨"x", [("k", (Scope.root []).interpolate "2 > 1")], []⟩] := by
  have read : (render (expressionTag "2 > 1") []).map
      (fun element => (Dict.keys element.attrs, element.children.length)) =
        [(["k", "\x7b2"], 1)] := by decide +kernel
  refine ⟨⟨_, by rfl⟩, by decide, ?_⟩
  intro same
  rw [same] at read
  cases read

end MarkupTemplate
