import MarkupTemplate.Proofs.Expr.Acceptance

/-!
The size of expressions. Binary operators and parentheses are not counted as terms, but every
operator stands between two terms. Main statement: what is accepted has no more terms than the limit
allows, and no path through it is longer than it has terms.
-/

namespace MarkupTemplate.Expr

/-- Leaves, prefix operators and accesses. -/
def terms : Expr → Nat
  | .literal _ | .variable _ => 1
  | .unary _ operand => 1 + operand.terms
  | .binary _ left right => left.terms + right.terms
  | .member base _ => 1 + base.terms
  | .index base position => 1 + base.terms + position.terms

/-- The number of nodes on the longest path, both ends included. -/
def depth : Expr → Nat
  | .literal _ | .variable _ => 1
  | .unary _ operand => 1 + operand.depth
  | .binary _ left right => 1 + max left.depth right.depth
  | .member base _ => 1 + base.depth
  | .index base position => 1 + max base.depth position.depth

theorem terms_positive (expr : Expr) : 0 < expr.terms := by
  induction expr <;> simp only [terms] <;> omega

/-- An expression is no deeper than it has terms. -/
theorem depth_le_terms (expr : Expr) : expr.depth ≤ expr.terms := by
  induction expr with
  | literal | «variable» => exact Nat.le_refl 1
  | unary op operand ih =>
      rw [depth, terms]
      omega
  | binary op left right leftIh rightIh =>
      -- Each side has a term, which pays for the node that joins them.
      have first := terms_positive left
      have second := terms_positive right
      rw [depth, terms]
      omega
  | member base name ih =>
      rw [depth, terms]
      omega
  | index base position baseIh positionIh =>
      rw [depth, terms]
      omega

theorem derived_terms (phrase : Phrase) (tokens : List Token) (expr : Expr) (count : Nat)
    (derives : Derives phrase tokens expr count) : expr.terms ≤ count := by
  induction derives with
  | tighter _ _ _ _ _ ih => exact ih
  | unsigned _ _ _ _ ih => exact ih
  | unaccessed _ _ _ _ ih => exact ih
  | join level before after symbol _ op left right _ _ _ _ _ _ leftIh rightIh =>
      exact Nat.add_le_add leftIh rightIh
  | signed sign tokens _ op operand _ _ _ _ ih => exact Nat.add_le_add_left ih 1
  | member tokens dot key base _ _ _ _ ih =>
      rw [terms]
      omega
  | index tokens inside opening closing base position _ _ _ _ _ _ baseIh positionIh =>
      rw [terms]
      omega
  | literal => exact Nat.le_refl 1
  | «variable» token _ _ => exact Nat.le_refl 1
  | parenthesis inside opening closing expr _ _ _ _ ih => exact Nat.le_add_left_of_le ih

/-- What is accepted has no more terms than the limit allows. -/
theorem parsed_terms (text : String) (expr : Expr) (read : parse text = .ok expr) :
    expr.terms ≤ maxTerms := by
  obtain ⟨_, count, few, derives⟩ := parse_sound text expr read
  exact Nat.le_trans (derived_terms _ _ expr count derives) few

end MarkupTemplate.Expr
