import MarkupTemplate.Expr.Eval
import MarkupTemplate.Proofs.Expr.Lexing
import MarkupTemplate.Proofs.Expr.Soundness

/-!
The names that an expression looks up in a scope. Each of them is the text of a token, so it stands
in the text of the expression. The names of members are not among them: they are looked up in
values. Main statement: in two scopes that find the same under every name which stands in the text,
an expression evaluates alike, errors included.
-/

namespace MarkupTemplate.Expr

/-- The names of the variables, which an evaluation may look up. -/
def roots : Expr → List String
  | .literal _ => []
  | .variable name => [name]
  | .unary _ operand => operand.roots
  | .binary _ left right => left.roots ++ right.roots
  | .member base _ => base.roots
  | .index base position => base.roots ++ position.roots

theorem eval_roots (left right : Scope) (expr : Expr)
    (agree : ∀ name ∈ expr.roots, left.find name = right.find name) :
    expr.eval left = expr.eval right := by
  induction expr with
  | literal value => rfl
  | «variable» name =>
      have found := agree name List.mem_cons_self
      rw [eval, eval, found]
  | unary op operand ih => rw [eval, eval, ih agree]
  | binary op before behind beforeIh behindIh =>
      have first := beforeIh fun name member => agree name (List.mem_append_left _ member)
      have second := behindIh fun name member => agree name (List.mem_append_right _ member)
      cases op <;> rw [eval, eval, first, second] <;> simp
  | member base name ih => rw [eval, eval, ih agree]
  | index base position baseIh positionIh =>
      have first := baseIh fun name member => agree name (List.mem_append_left _ member)
      have second := positionIh fun name member => agree name (List.mem_append_right _ member)
      rw [eval, eval, first, second]

def texts (tokens : List Token) : List String := tokens.map (·.text)

theorem texts_append (before after : List Token) :
    texts (before ++ after) = texts before ++ texts after := List.map_append

theorem derived_roots (phrase : Phrase) (tokens : List Token) (expr : Expr) (terms : Nat)
    (derives : Derives phrase tokens expr terms) : expr.roots ⊆ texts tokens := by
  induction derives with
  | tighter _ _ _ _ _ ih => exact ih
  | unsigned _ _ _ _ ih => exact ih
  | unaccessed _ _ _ _ ih => exact ih
  | join level before after symbol _ op left right _ _ _ _ _ _ leftIh rightIh =>
      rw [texts_append]
      apply List.append_subset.mpr
      constructor
      · exact List.subset_append_of_subset_left _ leftIh
      · exact List.subset_append_of_subset_right _ (List.subset_cons_of_subset _ rightIh)
  | signed sign tokens _ op operand _ _ _ _ ih => exact List.subset_cons_of_subset _ ih
  | member tokens dot key base _ _ _ _ ih =>
      rw [texts_append]
      exact List.subset_append_of_subset_left _ ih
  | index tokens inside opening closing base position _ _ _ _ _ _ baseIh positionIh =>
      rw [texts_append]
      apply List.append_subset.mpr
      constructor
      · exact List.subset_append_of_subset_left _ baseIh
      · apply List.subset_append_of_subset_right
        apply List.subset_cons_of_subset
        rw [← texts, texts_append]
        exact List.subset_append_of_subset_left _ positionIh
  | literal => exact nofun
  | «variable» token _ _ => exact List.Subset.refl _
  | parenthesis inside opening closing expr _ _ _ _ ih =>
      apply List.subset_cons_of_subset
      rw [← texts, texts_append]
      exact List.subset_append_of_subset_left _ ih

theorem scanned_within (text : List Char) (token : Token) (scanned : ScannedIn text token) :
    token.text.toList <:+: text := by
  obtain ⟨first, rest, more, inside, _, same⟩ := scanned
  rw [same, String.toList_ofList]
  have front : first :: rest.take more <+: first :: rest :=
    List.cons_prefix_cons.mpr ⟨rfl, List.take_prefix more rest⟩
  exact front.isInfix.trans inside.isInfix

theorem parsed_roots (text : String) (expr : Expr) (read : parse text = .ok expr) (name : String)
    (member : name ∈ expr.roots) : name.toList <:+: text.toList := by
  obtain ⟨_, terms, _, derives⟩ := parse_sound text expr read
  obtain ⟨token, cut, rfl⟩ := List.mem_map.mp (derived_roots _ _ expr terms derives member)
  have scanned := lex_scanned 0 (trim text.toList) token cut
  exact (scanned_within _ token scanned).trans (trim_within text.toList)

theorem evaluate_roots (left right : Scope) (text : String)
    (agree : ∀ name : String, name.toList <:+: text.toList → left.find name = right.find name) :
    evaluate text left = evaluate text right := by
  cases read : parse text with
  | error error => rw [evaluate, evaluate, read]; rfl
  | ok expr =>
      have same := eval_roots left right expr fun name member =>
        agree name (parsed_roots text expr read name member)
      rw [evaluate, evaluate, read]
      exact same

end MarkupTemplate.Expr
