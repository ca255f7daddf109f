import MarkupTemplate.Expr.Eval
import MarkupTemplate.Proofs.Binary64.Integer
import MarkupTemplate.Proofs.Expr.Operands
import MarkupTemplate.Proofs.Value.Order

/-!
Expressions that compare. Apart from the logical operators, a binary operator is applied to the
values of both operands, and fails where one of them does. Main statements: a comparison and the one
with both sides exchanged agree, unless the sides are two texts of which one is a number; and of two
different integers the smaller one is told from the greater one exactly where their doubles differ.
-/

namespace MarkupTemplate.Expr

variable (scope : Scope) (left right : Expr)

/-- Whether an operator needs both operands, whatever the left one is. -/
def strict : BinaryOp → Bool
  | .and | .or => false
  | _ => true

theorem eval_strict (op : BinaryOp) (both : strict op = true) :
    (binary op left right).eval scope =
      (left.eval scope >>= fun first =>
        right.eval scope >>= fun second => applyBinary op first second) := by
  cases op with
  | and | or => cases both
  | equal | unequal | less | atMost | greater | atLeast | add | subtract | multiply | divide
  | remainder => rfl

theorem eval_values (op : BinaryOp) (both : strict op = true) (first second : Value)
    (leftValue : left.eval scope = .ok first) (rightValue : right.eval scope = .ok second) :
    (binary op left right).eval scope = applyBinary op first second := by
  rw [eval_strict scope left right op both, leftValue, rightValue]
  rfl

theorem outcome_strict (op : BinaryOp) (both : strict op = true) :
    ((binary op left right).eval scope).toOption =
      (left.eval scope).toOption.bind fun first =>
        (right.eval scope).toOption.bind fun second => (applyBinary op first second).toOption := by
  rw [eval_strict scope left right op both]
  cases left.eval scope with
  | error failure => rfl
  | ok first => cases right.eval scope <;> rfl

theorem ordered_outcome (op : BinaryOp) (holds : Ordering → Bool) (first second : Value) :
    (ordered op holds first second).toOption =
      (first.compare? second).map fun ordering => .bool (holds ordering) := by
  rw [ordered]
  cases first.compare? second <;> rfl

theorem exchanged_values (first second : Value) :
    (applyBinary .less first second).toOption = (applyBinary .greater second first).toOption ↔
      ¬Value.Mixed first second := by
  have less := ordered_outcome .less (· == .lt) first second
  have greater := ordered_outcome .greater (· == .gt) second first
  rw [applyBinary, applyBinary, less, greater]
  constructor
  · rintro same (mixed | mixed)
    · obtain ⟨⟨ordering, found⟩, refused⟩ := Value.text_compared first second mixed
      rw [found, refused] at same
      cases same
    · obtain ⟨⟨ordering, found⟩, refused⟩ := Value.text_compared second first mixed
      rw [found, refused] at same
      cases same
  · intro unmixed
    rw [Value.compare_turned first second unmixed, Option.map_map]
    congr 1
    funext ordering
    cases ordering <;> rfl

/-- A comparison and the one with both sides exchanged have the same value, or both have none. -/
theorem exchanged_iff :
    ((binary .less left right).eval scope).toOption =
        ((binary .greater right left).eval scope).toOption ↔
      ¬∃ first second, left.eval scope = .ok first ∧ right.eval scope = .ok second ∧
        Value.Mixed first second := by
  rw [outcome_strict scope left right .less rfl, outcome_strict scope right left .greater rfl]
  cases leftValue : left.eval scope with
  | error failure => cases right.eval scope <;> simp [Except.toOption]
  | ok first =>
      cases rightValue : right.eval scope with
      | error failure => simp [Except.toOption]
      | ok second =>
          refine (exchanged_values first second).trans (not_congr ⟨?_, ?_⟩)
          · exact fun mixed => ⟨first, second, rfl, rfl, mixed⟩
          · rintro ⟨_, _, ⟨⟩, ⟨⟩, mixed⟩
            exact mixed

/-- The order of values is consistent, save where just one of two texts is a number: a comparison is
reversed when it is turned around, smaller values stay smaller down a row, and expressions agree
with both. -/
theorem order_consistent_iff (first second third : Value) :
    (second.compare? first = (first.compare? second).map Ordering.swap ↔
        ¬Value.Mixed first second) ∧
      (first.compare? second = some .lt ∧ second.compare? third = some .lt →
        (first.compare? third = some .lt ↔
          (Value.TextThenNumeral first second → Value.TextsAscend first third))) ∧
      (((binary .less left right).eval scope).toOption =
          ((binary .greater right left).eval scope).toOption ↔
        ¬∃ first second, left.eval scope = .ok first ∧ right.eval scope = .ok second ∧
          Value.Mixed first second) := by
  refine ⟨Value.compare_turned_iff first second, ?_, exchanged_iff scope left right⟩
  rintro ⟨less, later⟩
  exact Value.less_trans_iff first second third less later

-- As a text the nine would come behind the hundred.
theorem order_consistent_iff_numerals :
    (Value.string "9").compare? (.int 10) = some .lt ∧
      (Value.int 10).compare? (.string "1e2") = some .lt ∧
      (Value.string "9").compare? (.string "1e2") = some .lt := by
  have first : (Value.string "9").compare? (.int 10) = some .lt := by decide
  have second : (Value.int 10).compare? (.string "1e2") = some .lt := by decide
  have consistent := order_consistent_iff (.root []) (.literal .null) (.literal .null)
    (.string "9") (.int 10) (.string "1e2")
  refine ⟨first, second, (consistent.2.1 ⟨first, second⟩).mpr ?_⟩
  rintro ⟨_, _, _, ⟨⟩, _⟩

/-- A text that is no number, and a numeral. -/
def textAndNumeral : Scope := .root [("a", .string "+"), ("b", .string "1")]

/-- A text is less than the numeral that follows it, while the numeral is not compared with the
text; and the text is not compared with a number that is greater than the numeral. -/
theorem numeral_not_compared :
    (Value.string "+").compare? (.string "1") = some .lt ∧
      (Value.string "1").compare? (.string "+") = none ∧
      (Value.string "1").compare? (.int 2) = some .lt ∧
      (Value.string "+").compare? (.int 2) = none ∧
      evaluate "a < b" textAndNumeral = .ok (.bool true) ∧
      evaluate "b > a" textAndNumeral = .error (.binary ">" "string" "string") :=
  ⟨by decide, by decide, by decide, by decide, rfl, rfl⟩

theorem evaluate_operation (name other : String) (op : BinaryOp) (both : strict op = true)
    (isVariable : IsVariable name) (isOther : IsVariable other) (first second : Value)
    (bound : scope.find name = some first) (otherBound : scope.find other = some second) :
    evaluate (operation name op other) scope = applyBinary op first second := by
  rw [evaluate, parse_operation name other op isVariable isOther]
  refine eval_values scope _ _ op both first second ?_ ?_
  · rw [eval, bound]
  · rw [eval, otherBound]

theorem int64_fits (number : Int64) : number.toInt.natAbs ≤ 2 ^ 63 := by
  have least := number.le_toInt
  have greatest := number.toInt_lt
  omega

theorem ordered_integers (op : BinaryOp) (holds : Ordering → Bool) (first second : Int64) :
    ordered op holds (.int first) (.int second) =
      .ok (.bool (holds (compare (Binary64.integerRank first.toInt)
        (Binary64.integerRank second.toInt)))) := by
  have compared : (Value.int first).compare? (.int second) = _ :=
    Binary64.of_int_compare first.toInt second.toInt (int64_fits first) (int64_fits second)
  rw [ordered, compared]

theorem less_integers (first second : Int64) :
    applyBinary .less (.int first) (.int second) =
      .ok (.bool (decide (first.toInt < second.toInt ∧
        Binary64.ofInt first.toInt ≠ Binary64.ofInt second.toInt))) := by
  have places := Binary64.of_int_less_iff first.toInt second.toInt (int64_fits first)
    (int64_fits second)
  rw [applyBinary, ordered_integers]
  congr 2
  rw [Bool.eq_iff_iff, beq_iff_eq, decide_eq_true_iff, compare_lt_iff_lt, places]

theorem greater_integers (first second : Int64) :
    applyBinary .greater (.int first) (.int second) =
      .ok (.bool (decide (second.toInt < first.toInt ∧
        Binary64.ofInt first.toInt ≠ Binary64.ofInt second.toInt))) := by
  have places := Binary64.of_int_less_iff second.toInt first.toInt (int64_fits second)
    (int64_fits first)
  rw [applyBinary, ordered_integers]
  congr 2
  rw [Bool.eq_iff_iff, beq_iff_eq, decide_eq_true_iff, compare_gt_iff_gt, places, ne_comm]

theorem equal_integers (first second : Int64) :
    applyBinary .equal (.int first) (.int second) =
      .ok (.bool (decide (first.toInt = second.toInt))) := by
  rw [applyBinary, Value.equals]
  congr 2
  rw [Bool.eq_iff_iff, beq_iff_eq, decide_eq_true_iff, Int64.toInt_inj]

/-- Of two integers of 64 bits, equality is exact, and the smaller one is told from the greater one
exactly where their doubles differ. Different integers with one double are large, of one sign and
close to each other. -/
theorem integers_compared (scope : Scope) (name other : String) (isVariable : IsVariable name)
    (isOther : IsVariable other) (first second : Int64)
    (bound : scope.find name = some (.int first))
    (otherBound : scope.find other = some (.int second)) :
    evaluate (operation name .less other) scope =
        .ok (.bool (decide (first.toInt < second.toInt ∧
          Binary64.ofInt first.toInt ≠ Binary64.ofInt second.toInt))) ∧
      evaluate (operation name .equal other) scope =
        .ok (.bool (decide (first.toInt = second.toInt))) ∧
      evaluate (operation name .greater other) scope =
        .ok (.bool (decide (second.toInt < first.toInt ∧
          Binary64.ofInt first.toInt ≠ Binary64.ofInt second.toInt))) ∧
      (Binary64.ofInt first.toInt = Binary64.ofInt second.toInt →
        first.toInt = second.toInt ∨
          (2 ^ 53 ≤ first.toInt ∧ 2 ^ 53 ≤ second.toInt ∨
            first.toInt ≤ -2 ^ 53 ∧ second.toInt ≤ -2 ^ 53) ∧
          (first.toInt - second.toInt).natAbs ≤ 1024) := by
  have applied (op : BinaryOp) (both : strict op = true) :
      evaluate (operation name op other) scope = applyBinary op (.int first) (.int second) :=
    evaluate_operation scope name other op both isVariable isOther (.int first) (.int second)
      bound otherBound
  refine ⟨?_, ?_, ?_, ?_⟩
  · rw [applied .less rfl, less_integers]
  · rw [applied .equal rfl, equal_integers]
  · rw [applied .greater rfl, greater_integers]
  · intro same
    have places := (Binary64.of_int_eq_iff first.toInt second.toInt (int64_fits first)
      (int64_fits second)).mp same
    exact Binary64.same_rank_close first.toInt second.toInt (int64_fits first) (int64_fits second)
      places

/-- Two large integers. -/
def largeIntegers : Scope := .root [("a", .int 9007199254740993), ("b", .int 9007199254740995)]

theorem integers_compared_large :
    IsVariable "a" ∧ IsVariable "b" ∧
      evaluate "a < b" largeIntegers = .ok (.bool true) ∧
      evaluate "a == b" largeIntegers = .ok (.bool false) ∧
      evaluate "a > b" largeIntegers = .ok (.bool false) := by
  have isFirst : IsVariable "a" := by decide +kernel
  have isSecond : IsVariable "b" := by decide +kernel
  have compared := integers_compared largeIntegers "a" "b" isFirst isSecond 9007199254740993
    9007199254740995 rfl rfl
  exact ⟨isFirst, isSecond, compared.1, compared.2.1, compared.2.2.1⟩

/-- Two integers with one double. -/
def mergedIntegers : Scope := .root [("a", .int 9007199254740992), ("b", .int 9007199254740993)]

/-- Integers with one double are neither equal, nor is one of them less than the other. -/
theorem merged_integers_incomparable :
    (9007199254740992 : Int64).toInt < (9007199254740993 : Int64).toInt ∧
      evaluate "a < b" mergedIntegers = .ok (.bool false) ∧
      evaluate "a == b" mergedIntegers = .ok (.bool false) ∧
      evaluate "a > b" mergedIntegers = .ok (.bool false) :=
  ⟨by decide, rfl, rfl, rfl⟩

end MarkupTemplate.Expr
