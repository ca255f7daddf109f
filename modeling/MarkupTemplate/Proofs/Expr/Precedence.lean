import MarkupTemplate.Outcome
import MarkupTemplate.Proofs.Expr.Climbing

/-!
Operators joined by their precedence while they are read. An operand behind an operator takes the
tighter operators behind it, and the looser ones are left to those who wait for it. Main statement:
this reads what reading the whole chain first and building its tree with a stack of pending
operators reads, with the same tree, the same tokens left and the same errors.
-/

namespace MarkupTemplate.Expr

/-- Reading leaves no more tokens than there were. -/
def Shrinks (reading : Reading Expr) : Prop :=
  ∀ before expr after, reading before = .ok (expr, after) →
    after.tokens.length ≤ before.tokens.length

/-- Reads the rest of a chain behind pending operators and the operand behind them. -/
def chainFrom (source : Source) (operand : Reading Expr) (steps : Nat) (pending : Pending)
    (left : Expr) (cursor : Cursor) : Except Error (Expr × Cursor) := do
  let (rest, cursor) ← chainRest source operand steps cursor
  return (climb pending left rest, cursor)

theorem advance_tail (source : Source) (before after : Cursor) (taken : Option Token)
    (read : advance source before = .ok (taken, after)) : after.tokens = before.tokens.tail := by
  unfold advance at read
  split at read
  · rename_i nothing
    cases read
    rw [nothing]
    rfl
  · rename_i token rest here
    rw [here]
    split at read <;> cases read
    rfl

theorem binary_at_filled (cursor : Cursor) (op : BinaryOp) (joined : binaryAt cursor = some op) :
    cursor.tokens ≠ [] := by
  intro nothing
  rw [binaryAt, nothing] at joined
  cases joined

variable {source : Source} {operand : Reading Expr}

/-- What is left behind an operator and the operand behind it. -/
theorem link_shrinks (shrinks : Shrinks operand) (before atNext behind : Cursor) (op : BinaryOp)
    (taken : Option Token) (next : Expr) (joined : binaryAt before = some op)
    (advanced : advance source before = .ok (taken, atNext))
    (read : operand atNext = .ok (next, behind)) :
    behind.tokens.length < before.tokens.length := by
  have filled := List.length_pos_iff.mpr (binary_at_filled before op joined)
  have fewer := shrinks atNext next behind read
  rw [advance_tail source before atNext taken advanced, List.length_tail] at fewer
  omega

/-- Behind a left operand either no operator of the precedence follows, or one is read with its
right operand and then what follows the two. -/
theorem compound_rest_cases (steps least : Nat) (left : Expr) (before : Cursor) (expr : Expr)
    (after : Cursor)
    (read : compoundRest source operand (steps + 1) least left before = .ok (expr, after)) :
    ((∀ op, binaryAt before = some op → op.precedence < least) ∧ expr = left ∧ after = before) ∨
      ∃ op taken atNext next behind right last, binaryAt before = some op ∧
        advance source before = .ok (taken, atNext) ∧ operand atNext = .ok (next, behind) ∧
        compoundRest source operand steps (op.precedence + 1) next behind = .ok (right, last) ∧
        compoundRest source operand steps least (.binary op left right) last =
          .ok (expr, after) := by
  rw [compoundRest] at read
  split at read
  · rename_i nothing
    cases read
    refine .inl ⟨fun op joined => ?_, rfl, rfl⟩
    rw [joined, Option.filter_eq_none_iff] at nothing
    simpa using nothing op rfl
  · rename_i op found
    obtain ⟨⟨taken, atNext⟩, advanced, read⟩ := bind_ok read
    obtain ⟨⟨next, behind⟩, nextRead, read⟩ := bind_ok read
    obtain ⟨⟨right, last⟩, rightRead, read⟩ := bind_ok read
    have joined := (Option.filter_eq_some_iff.mp found).1
    exact .inr ⟨op, taken, atNext, next, behind, right, last, joined, advanced, nextRead, rightRead,
      read⟩

theorem compound_rest_shrinks (shrinks : Shrinks operand) (steps least : Nat) (left : Expr) :
    Shrinks (compoundRest source operand steps least left) := by
  induction steps generalizing least left with
  | zero =>
      intro before expr after read
      cases read
      exact Nat.le_refl _
  | succ steps ih =>
      intro before expr after read
      rcases compound_rest_cases steps least left before expr after read with
        ⟨_, _, rfl⟩ | ⟨op, taken, atNext, next, behind, right, last, joined, advanced, nextRead,
          rightRead, read⟩
      · exact Nat.le_refl _
      · have one := link_shrinks shrinks before atNext behind op taken next joined advanced nextRead
        have two := ih _ _ behind right last rightRead
        have three := ih _ _ last expr after read
        omega

/-- What is read behind a left operand ends where a looser operator follows or none. -/
theorem compound_rest_stops (shrinks : Shrinks operand) (steps least : Nat) (left : Expr)
    (before : Cursor) (expr : Expr) (after : Cursor) (enough : before.tokens.length ≤ steps)
    (read : compoundRest source operand steps least left before = .ok (expr, after)) :
    ∀ op, binaryAt after = some op → op.precedence < least := by
  induction steps generalizing left before with
  | zero =>
      cases read
      intro op joined
      have nothing := List.eq_nil_of_length_eq_zero (Nat.le_zero.mp enough)
      exact absurd nothing (binary_at_filled _ op joined)
  | succ steps ih =>
      rcases compound_rest_cases steps least left before expr after read with
        ⟨stops, _, rfl⟩ | ⟨op, taken, atNext, next, behind, right, last, joined, advanced, nextRead,
          rightRead, read⟩
      · exact stops
      · have one := link_shrinks shrinks before atNext behind op taken next joined advanced nextRead
        have two := compound_rest_shrinks shrinks _ _ _ behind right last rightRead
        exact ih _ last (by omega) read

theorem chain_rest_none (steps : Nat) (before : Cursor) (ended : binaryAt before = none) :
    chainRest source operand steps before = .ok ([], before) := by
  cases steps with
  | zero => rfl
  | succ steps => rw [chainRest, ended]

/-- Steps that are not needed change nothing. -/
theorem chain_rest_steps (shrinks : Shrinks operand) (steps others : Nat) (before : Cursor)
    (enough : before.tokens.length ≤ steps) (enoughToo : before.tokens.length ≤ others) :
    chainRest source operand steps before = chainRest source operand others before := by
  induction steps generalizing others before with
  | zero =>
      have ended : binaryAt before = none := by
        rw [binaryAt, List.eq_nil_of_length_eq_zero (Nat.le_zero.mp enough)]
      rw [chain_rest_none 0 before ended, chain_rest_none others before ended]
  | succ steps ih =>
      cases joined : binaryAt before with
      | none => rw [chain_rest_none _ before joined, chain_rest_none _ before joined]
      | some op =>
          have filled := List.length_pos_iff.mpr (binary_at_filled before op joined)
          obtain ⟨others, rfl⟩ := Nat.exists_eq_add_of_le' (Nat.lt_of_lt_of_le filled enoughToo)
          rw [chainRest, chainRest, joined]
          cases advanced : advance source before with
          | error error => rfl
          | ok taken =>
              cases nextRead : operand taken.2 with
              | error error => simp only [bind, Except.bind, nextRead]
              | ok next =>
                  have fewer := link_shrinks shrinks before taken.2 next.2 op taken.1 next.1 joined
                    advanced nextRead
                  have same := ih others next.2 (by omega) (by omega)
                  simp only [bind, Except.bind, nextRead, same]

theorem chain_rest_first (steps : Nat) (before after : Cursor) (op : BinaryOp) (next : Expr)
    (rest : Links)
    (read : chainRest source operand steps before = .ok ((op, next) :: rest, after)) :
    binaryAt before = some op := by
  cases steps with
  | zero => cases read
  | succ steps =>
      cases joined : binaryAt before with
      | none =>
          rw [chain_rest_none _ before joined] at read
          cases read
      | some other =>
          rw [chainRest, joined] at read
          obtain ⟨_, _, read⟩ := bind_ok read
          obtain ⟨_, _, read⟩ := bind_ok read
          obtain ⟨_, _, read⟩ := bind_ok read
          cases read
          rfl

/-- An operator is complete where none follows that binds more tightly. -/
theorem chain_from_join (steps : Nat) (pending : Pending) (left right : Expr) (op : BinaryOp)
    (cursor : Cursor) (yields : ∀ other, binaryAt cursor = some other →
      other.precedence ≤ op.precedence) :
    chainFrom source operand steps ((left, op) :: pending) right cursor =
      chainFrom source operand steps pending (.binary op left right) cursor := by
  rw [chainFrom, chainFrom]
  cases read : chainRest source operand steps cursor with
  | error error => rfl
  | ok found =>
      obtain ⟨links, last⟩ := found
      have joined := climb_join pending left right op links fun other next rest same =>
        yields other (chain_rest_first steps cursor last other next rest (same ▸ read))
      exact congrArg (fun expr => Except.ok (expr, last)) joined

theorem chain_from_steps (shrinks : Shrinks operand) (steps others : Nat) (pending : Pending)
    (left : Expr) (before : Cursor) (enough : before.tokens.length ≤ steps)
    (enoughToo : before.tokens.length ≤ others) :
    chainFrom source operand steps pending left before =
      chainFrom source operand others pending left before := by
  rw [chainFrom, chainFrom, chain_rest_steps shrinks steps others before enough enoughToo]

/-- An operator that binds more tightly than those in front of it waits for what follows. -/
theorem chain_from_link (steps : Nat) (pending : Pending) (left : Expr) (before : Cursor)
    (op : BinaryOp) (joined : binaryAt before = some op) (looser : Looser op.precedence pending) :
    chainFrom source operand (steps + 1) pending left before =
      (advance source before).bind fun taken => (operand taken.2).bind fun next =>
        chainFrom source operand steps ((left, op) :: pending) next.1 next.2 := by
  simp only [chainFrom, chainRest, joined, bind, Except.bind]
  cases advance source before with
  | error error => rfl
  | ok taken =>
      cases read : operand taken.2 with
      | error error => simp only [read]
      | ok next =>
          cases rest : chainRest source operand steps next.2 with
          | error error => simp only [read, rest]
          | ok found =>
              simp only [read, rest, pure, Except.pure, climb,
                settle_looser op.precedence pending left looser]

/-- Behind its right operand an operator is complete, and the chain goes on. -/
theorem chain_from_complete (shrinks : Shrinks operand) (steps others : Nat) (pending : Pending)
    (left next right : Expr) (op : BinaryOp) (behind last : Cursor)
    (enough : behind.tokens.length ≤ steps) (enoughToo : behind.tokens.length ≤ others)
    (read : compoundRest source operand steps (op.precedence + 1) next behind =
      .ok (right, last)) :
    chainFrom source operand others ((left, op) :: pending) right last =
      chainFrom source operand (others + 1) pending (.binary op left right) last := by
  have stops := compound_rest_stops shrinks steps _ next behind right last enough read
  have fewer := compound_rest_shrinks shrinks steps _ next behind right last read
  calc chainFrom source operand others ((left, op) :: pending) right last
      = chainFrom source operand others pending (.binary op left right) last :=
        chain_from_join _ _ _ _ _ _ fun other joined => Nat.le_of_lt_succ (stops other joined)
    _ = chainFrom source operand (others + 1) pending (.binary op left right) last :=
        chain_from_steps shrinks _ _ _ _ _ (by omega) (by omega)

-- The induction is on the steps. The pending operators are looser than the least one to be read, so
-- that they wait until the chain comes to one that is looser than that.
theorem chain_from_compound (shrinks : Shrinks operand) (steps others least : Nat)
    (pending : Pending) (left : Expr) (before : Cursor) (looser : Looser least pending)
    (enough : before.tokens.length ≤ steps) (enoughToo : before.tokens.length ≤ others) :
    chainFrom source operand others pending left before =
      (compoundRest source operand steps least left before).bind fun found =>
        chainFrom source operand others pending found.1 found.2 := by
  induction steps generalizing others least pending left before with
  | zero => rfl
  | succ steps ih =>
      rw [compoundRest]
      cases found : (binaryAt before).filter (least ≤ ·.precedence) with
      | none => rfl
      | some op =>
          obtain ⟨joined, tight⟩ := Option.filter_eq_some_iff.mp found
          have filled := List.length_pos_iff.mpr (binary_at_filled before op joined)
          obtain ⟨others, rfl⟩ := Nat.exists_eq_add_of_le' (Nat.lt_of_lt_of_le filled enoughToo)
          have waiting : Looser op.precedence pending := fun entry member =>
            Nat.lt_of_lt_of_le (looser entry member) (of_decide_eq_true tight)
          have pushed : Looser (op.precedence + 1) ((left, op) :: pending) :=
            List.forall_mem_cons.mpr ⟨Nat.lt_succ_self _, fun entry member =>
              Nat.lt_succ_of_lt (waiting entry member)⟩
          rw [chain_from_link others pending left before op joined waiting]
          cases advanced : advance source before with
          | error error => rfl
          | ok taken =>
              obtain ⟨taken, atNext⟩ := taken
              cases nextRead : operand atNext with
              | error error => simp only [bind, Except.bind, nextRead]
              | ok next =>
                  obtain ⟨next, behind⟩ := next
                  have fewer := link_shrinks shrinks before atNext behind op taken next joined
                    advanced nextRead
                  have inner := ih others (op.precedence + 1) ((left, op) :: pending) next behind
                    pushed (by omega) (by omega)
                  simp only [bind, Except.bind, nextRead]
                  rw [inner]
                  cases rightRead : compoundRest source operand steps (op.precedence + 1) next
                      behind with
                  | error error => rfl
                  | ok right =>
                      obtain ⟨right, last⟩ := right
                      have fewest := compound_rest_shrinks shrinks _ _ _ behind right last rightRead
                      have complete := chain_from_complete shrinks steps others pending left next
                        right op behind last (by omega) (by omega) rightRead
                      exact complete.trans (ih (others + 1) least pending (.binary op left right)
                        last looser (by omega) (by omega))

/-- Joining the operators by their precedence reads what reading the whole chain first reads. -/
theorem compound_chain (source : Source) (operand : Reading Expr) (shrinks : Shrinks operand) :
    compound source operand 1 = chain source operand := by
  funext before
  rw [compound, chain]
  cases firstRead : operand before with
  | error error => rfl
  | ok first =>
      change compoundRest source operand first.2.tokens.length 1 first.1 first.2 =
        chainFrom source operand first.2.tokens.length [] first.1 first.2
      rw [chain_from_compound shrinks first.2.tokens.length first.2.tokens.length 1 [] first.1
        first.2 nofun (Nat.le_refl _) (Nat.le_refl _)]
      cases read : compoundRest source operand first.2.tokens.length 1 first.1 first.2 with
      | error error => rfl
      | ok found =>
          have stops := compound_rest_stops shrinks _ 1 first.1 first.2 found.1 found.2
            (Nat.le_refl _) read
          have ended : binaryAt found.2 = none := by
            refine Option.eq_none_iff_forall_ne_some.mpr fun op joined => ?_
            exact absurd (stops op joined) (Nat.not_lt.mpr (precedence_below op).1)
          simp only [Except.bind, chainFrom, chain_rest_none _ found.2 ended, bind, pure,
            Except.pure, climb, settle]

end MarkupTemplate.Expr
