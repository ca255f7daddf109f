import Mathlib.Data.List.Induction
import MarkupTemplate.Expr.Parser
import MarkupTemplate.Proofs.Expr.Grammar

/-!
Operands read one after another with the operators between them, whatever their precedence, and the
tree that the levels give such a chain. Main statement: every chain has such a tree, and it is the
one that a stack of pending operators builds.
-/

namespace MarkupTemplate.Expr

/-- Pending operators with their left operands, the innermost first. -/
abbrev Pending := List (Expr × BinaryOp)

/-- Completes the pending operators that bind at least as tightly as the given precedence. -/
def settle (precedence : Nat) : Pending → Expr → Pending × Expr
  | [], right => ([], right)
  | (left, op) :: pending, right =>
      if precedence ≤ op.precedence then settle precedence pending (.binary op left right)
      else ((left, op) :: pending, right)

/-- Builds the tree of a chain of operands: the operator between two goes with the tighter side. -/
def climb : Pending → Expr → List (BinaryOp × Expr) → Expr
  | pending, operand, [] => (settle 0 pending operand).2
  | pending, operand, (op, next) :: rest =>
      let settled := settle op.precedence pending operand
      climb ((settled.2, op) :: settled.1) next rest

/-- Reads the operators and operands that follow an operand, at most `steps` of them. -/
def chainRest (source : Source) (operand : Reading Expr) :
    Nat → Reading (List (BinaryOp × Expr))
  | 0, cursor => .ok ([], cursor)
  | steps + 1, cursor =>
      match binaryAt cursor with
      | none => .ok ([], cursor)
      | some op => do
          let (_, cursor) ← advance source cursor
          let (next, cursor) ← operand cursor
          let (rest, cursor) ← chainRest source operand steps cursor
          return ((op, next) :: rest, cursor)

/-- Reads operands joined by binary operators. -/
def chain (source : Source) (operand : Reading Expr) (cursor : Cursor) :
    Except Error (Expr × Cursor) := do
  let (first, cursor) ← operand cursor
  let (rest, cursor) ← chainRest source operand cursor.tokens.length cursor
  return (climb [] first rest, cursor)

/-- The operators behind the first operand of a chain, each with the operand behind it. -/
abbrev Links := List (BinaryOp × Expr)

inductive Tree : Phrase → Expr → Links → Expr → Prop where
  | operand (expr : Expr) : Tree .unary expr [] expr
  | tighter (level : Level) (first : Expr) (links : Links) (expr : Expr) :
      Tree level.tighter first links expr → Tree (.joined level) first links expr
  | join (level : Level) (first second left right : Expr) (before after : Links) (op : BinaryOp) :
      Tree (.joined level) first before left → op.precedence = level.rank →
      Tree level.tighter second after right →
      Tree (.joined level) first (before ++ (op, second) :: after) (.binary op left right)

/-- The least precedence that an operator in a phrase may have. -/
def Phrase.rank : Phrase → Nat
  | .joined level => level.rank
  | _ => 6

theorem tighter_rank (level : Level) : level.tighter.rank = level.rank + 1 := by
  cases level <;> rfl

theorem precedence_below (op : BinaryOp) : 0 < op.precedence ∧ op.precedence < 6 := by
  cases op <;> decide

/-- Every operator on the stack binds more loosely. -/
def Looser (rank : Nat) (pending : Pending) : Prop := ∀ entry ∈ pending, entry.2.precedence < rank

/-- What follows starts with no operator that binds more tightly. -/
def Yields (rank : Nat) (links : Links) : Prop :=
  ∀ op next rest, links = (op, next) :: rest → op.precedence ≤ rank

theorem settle_looser (rank : Nat) (pending : Pending) (expr : Expr)
    (looser : Looser rank pending) : settle rank pending expr = (pending, expr) := by
  cases pending with
  | nil => rfl
  | cons entry rest =>
      have loose : entry.2.precedence < rank := looser entry List.mem_cons_self
      rw [settle, if_neg (Nat.not_le.mpr loose)]

theorem climb_join (pending : Pending) (left right : Expr) (op : BinaryOp) (links : Links)
    (yields : Yields op.precedence links) :
    climb ((left, op) :: pending) right links = climb pending (.binary op left right) links := by
  cases links with
  | nil => rw [climb, climb, settle, if_pos (Nat.zero_le _)]
  | cons link rest =>
      obtain ⟨next, operand⟩ := link
      have tight := yields next operand rest rfl
      rw [climb, climb, settle, if_pos tight]

-- The pending operators are looser than the whole phrase, and what follows binds no tighter than
-- its loosest operator; so the phrase is complete before anything around it is.
theorem climb_tree (phrase : Phrase) (first : Expr) (links : Links) (expr : Expr)
    (tree : Tree phrase first links expr) (pending : Pending) (after : Links)
    (looser : Looser phrase.rank pending) (yields : Yields phrase.rank after) :
    climb pending first (links ++ after) = climb pending expr after := by
  induction tree generalizing pending after with
  | operand expr => rfl
  | tighter level first links expr _ ih =>
      apply ih
      · intro entry member
        have loose := looser entry member
        rw [tighter_rank]
        exact Nat.lt_succ_of_lt loose
      · intro op next rest same
        have tight := yields op next rest same
        rw [tighter_rank]
        exact Nat.le_succ_of_le tight
  | join level first second left right before behind op _ rank _ leftIh rightIh =>
      have settled : settle op.precedence pending left = (pending, left) := by
        rw [rank]
        exact settle_looser level.rank pending left looser
      rw [List.append_assoc, leftIh pending _ looser]
      · rw [List.cons_append, climb, settled]
        rw [rightIh ((left, op) :: pending) after]
        · exact climb_join pending left right op after (by rw [rank]; exact yields)
        · intro entry member
          rw [tighter_rank]
          rcases List.mem_cons.mp member with rfl | old
          · exact Nat.lt_succ_of_le (Nat.le_of_eq rank)
          · exact Nat.lt_succ_of_lt (looser entry old)
        · intro next operand rest same
          rw [tighter_rank]
          exact Nat.le_succ_of_le (yields next operand rest same)
      · intro next operand rest same
        cases same
        exact Nat.le_of_eq rank

theorem climb_whole (first : Expr) (links : Links) (expr : Expr)
    (tree : Tree (.joined .disjunction) first links expr) : climb [] first links = expr := by
  have built := climb_tree _ first links expr tree [] [] (by simp [Looser]) (by simp [Yields])
  rwa [List.append_nil] at built

-- A single operand is a phrase of every level.
theorem tree_operand (expr : Expr) (level : Level) : Tree (.joined level) expr [] expr := by
  have product := Tree.tighter .product expr [] expr (.operand expr)
  have sum := Tree.tighter .sum expr [] expr product
  have comparison := Tree.tighter .comparison expr [] expr sum
  have conjunction := Tree.tighter .conjunction expr [] expr comparison
  cases level with
  | product => exact product
  | sum => exact sum
  | comparison => exact comparison
  | conjunction => exact conjunction
  | disjunction => exact .tighter .disjunction expr [] expr conjunction

theorem tighter_operand (expr : Expr) (level : Level) : Tree level.tighter expr [] expr := by
  cases level with
  | product => exact .operand expr
  | sum | comparison | conjunction | disjunction => exact tree_operand expr _

/-- A phrase takes one more operand at its right end. -/
def Grows (op : BinaryOp) (next : Expr) (phrase : Phrase) : Prop :=
  phrase.rank ≤ op.precedence → ∀ first links expr, Tree phrase first links expr →
    ∃ grown, Tree phrase first (links ++ [(op, next)]) grown

theorem grows_level (op : BinaryOp) (next : Expr) (level : Level)
    (inner : Grows op next level.tighter) : Grows op next (.joined level) := by
  intro rank first links expr tree
  rcases Nat.eq_or_lt_of_le rank with same | tight
  · exact ⟨_, .join level first next expr next links [] op tree same.symm
      (tighter_operand next level)⟩
  · have deeper : level.tighter.rank ≤ op.precedence := by rwa [tighter_rank]
    cases tree with
    | tighter _ _ _ _ tree =>
        obtain ⟨grown, tree⟩ := inner deeper first links expr tree
        exact ⟨grown, .tighter level first _ grown tree⟩
    | join _ _ second left right before after outer leftTree outerRank rightTree =>
        obtain ⟨grown, tree⟩ := inner deeper second after right rightTree
        refine ⟨.binary outer left grown, ?_⟩
        rw [List.append_assoc, List.cons_append]
        exact .join level first second left grown before _ outer leftTree outerRank tree

theorem grows_disjunction (op : BinaryOp) (next : Expr) :
    Grows op next (.joined .disjunction) := by
  have unary : Grows op next .unary := fun rank =>
    (Nat.not_lt.mpr rank (precedence_below op).2).elim
  have product := grows_level op next .product unary
  have sum := grows_level op next .sum product
  have comparison := grows_level op next .comparison sum
  exact grows_level op next .disjunction (grows_level op next .conjunction comparison)

theorem tree_exists (first : Expr) (links : Links) :
    ∃ expr, Tree (.joined .disjunction) first links expr := by
  induction links using List.reverseRecOn with
  | nil => exact ⟨first, tree_operand first .disjunction⟩
  | append_singleton links link ih =>
      obtain ⟨expr, tree⟩ := ih
      exact grows_disjunction link.1 link.2 (precedence_below link.1).1 first links expr tree

/-- The stack of pending operators builds the tree of the levels. -/
theorem tree_climb (first : Expr) (links : Links) :
    Tree (.joined .disjunction) first links (climb [] first links) := by
  obtain ⟨expr, tree⟩ := tree_exists first links
  rwa [climb_whole first links expr tree]

end MarkupTemplate.Expr
