import MarkupTemplate.Proofs.Rearrangement.Value
import MarkupTemplate.Template.Interpolation

/-!
Evaluation in scopes whose values are rearranged. Every operator looks at what rearranged values
have in common, so an expression ends in both scopes alike: with rearranged values, or with the
same error. Main statement: what an expression prints in the two scopes is rearranged.
-/

namespace MarkupTemplate

/-- The same names are bound in both scopes, to rearranged values. -/
def Scope.Rearranged (left right : Scope) : Prop :=
  ∀ name, Option.Rel Value.Rearranged (left.find name) (right.find name)

theorem root_rearranged (left right : Dict Value)
    (contexts : Value.Rearranged (.map left) (.map right)) :
    Scope.Rearranged (.root left) (.root right) := by
  intro name
  rw [Scope.find_root, Scope.find_root]
  exact contexts.member name

theorem child_rearranged {left right : Scope} (scopes : Scope.Rearranged left right)
    (name : String) {first second : Value} (values : Value.Rearranged first second) :
    Scope.Rearranged (left.child name first) (right.child name second) := by
  intro key
  rw [Scope.find_child, Scope.find_child]
  by_cases same : name = key
  · simp only [same, ↓reduceIte]
    exact .some values
  · simp only [same, ↓reduceIte]
    exact scopes key

namespace Expr

open Value (Rearranged)

/-- Two runs that end alike. -/
inductive Alike : Except Error Value → Except Error Value → Prop where
  | ok {left right : Value} : Rearranged left right → Alike (.ok left) (.ok right)
  | error (error : Error) : Alike (.error error) (.error error)

theorem alike_same (outcome : Except Error Value) : Alike outcome outcome := by
  cases outcome with
  | error error => exact .error error
  | ok value => exact .ok (.same value)

theorem alike_bind {first second : Except Error Value} {next other : Value → Except Error Value}
    (begin : Alike first second)
    (onward : ∀ left right, Rearranged left right → Alike (next left) (other right)) :
    Alike (first >>= next) (second >>= other) := by
  cases begin with
  | ok values => exact onward _ _ values
  | error error => exact .error error

theorem alike_truth {first second : Except Error Value} (outcomes : Alike first second) :
    Alike (do return .bool (← first).isTruthy) (do return .bool (← second).isTruthy) := by
  refine alike_bind outcomes ?_
  intro left right values
  rw [values.isTruthy]
  exact alike_same _

theorem alike_found (first second : Option Value) (failure : Error) :
    Option.Rel Rearranged first second →
      Alike (match first with | some value => .ok value | none => .error failure)
        (match second with | some value => .ok value | none => .error failure) := by
  intro found
  cases found with
  | none => exact .error failure
  | some values => exact .ok values

section

variable {left right other others : Value} (first : Rearranged left right)
  (second : Rearranged other others)

include first

theorem isString_rearranged : isString left = isString right := by
  cases first <;> rfl

theorem apply_unary_rearranged (op : UnaryOp) : applyUnary op left = applyUnary op right := by
  cases op <;> simp only [applyUnary, first.isTruthy, first.asFloat, first.kind]

include second

theorem apply_binary_rearranged (op : BinaryOp) :
    applyBinary op left other = applyBinary op right others := by
  have refused : ∀ op, unsupported op left other = unsupported op right others := by
    intro op
    rw [unsupported, unsupported, first.kind, second.kind]
  have compared : ∀ holds, ordered op holds left other = ordered op holds right others := by
    intro holds
    rw [ordered, ordered, first.compare second, refused]
  have computed : ∀ op apply,
      arithmetic op apply left other = arithmetic op apply right others := by
    intro op apply
    simp only [arithmetic, first.asFloat, second.asFloat, refused]
  cases op with
  | or | and => simp only [applyBinary, first.isTruthy, second.isTruthy]
  | equal | unequal => simp only [applyBinary, first.equals second]
  | less | atMost | greater | atLeast => exact compared _
  | add =>
      simp only [applyBinary, sum, isString_rearranged first, isString_rearranged second,
        first.display, second.display, computed]
  | subtract | multiply | divide => exact computed _ _
  | remainder => simp only [applyBinary, remainder, first.asInt, second.asInt, refused]

end

theorem eval_alike {left right : Scope} (scopes : Scope.Rearranged left right) (expr : Expr) :
    Alike (expr.eval left) (expr.eval right) := by
  induction expr with
  | literal value => exact .ok (.same value)
  | «variable» name => exact alike_found _ _ (.unknownIdentifier name) (scopes name)
  | unary op operand ih =>
      refine alike_bind ih ?_
      intro first second values
      rw [apply_unary_rearranged values]
      exact alike_same _
  | binary op before behind beforeIh behindIh =>
      cases op with
      | and =>
          refine alike_bind beforeIh ?_
          intro first second values
          rw [values.isTruthy]
          cases second.isTruthy with
          | true => exact alike_truth behindIh
          | false => exact alike_same _
      | or =>
          refine alike_bind beforeIh ?_
          intro first second values
          rw [values.isTruthy]
          cases second.isTruthy with
          | true => exact alike_same _
          | false => exact alike_truth behindIh
      | _ =>
          refine alike_bind beforeIh ?_
          intro first second values
          refine alike_bind behindIh ?_
          intro other others more
          rw [apply_binary_rearranged values more]
          exact alike_same _
  | member base name ih =>
      refine alike_bind ih ?_
      intro first second values
      rw [values.kind]
      exact alike_found _ _ _ (values.member name)
  | index base position baseIh positionIh =>
      refine alike_bind baseIh ?_
      intro first second values
      refine alike_bind positionIh ?_
      intro place places index
      rw [values.kind, index.display]
      exact alike_found _ _ _ (values.atIndex index)

theorem evaluate_alike {left right : Scope} (scopes : Scope.Rearranged left right)
    (text : String) : Alike (evaluate text left) (evaluate text right) := by
  rw [evaluate, evaluate]
  cases parse text with
  | error error => exact .error error
  | ok expr => exact eval_alike scopes expr

end Expr

/-- What is printed for a value that was found, or for none. -/
theorem evaluate_follow_path (scope : Scope) (text : String) :
    scope.evaluate text = followPath (Expr.evaluate text scope).toOption [] := by
  rw [Scope.evaluate]
  cases Expr.evaluate text scope with
  | error error => rfl
  | ok value => cases value <;> rfl

theorem follow_path_rearranged (names : List String) {first second : Option Value}
    (found : Option.Rel Value.Rearranged first second) :
    Value.Rearranged (followPath first names) (followPath second names) := by
  induction names generalizing first second with
  | nil =>
      cases found with
      | none => exact .same nothing
      | some values =>
          cases values with
          | same value => exact .same _
          | list left right lengths items => exact .list left right lengths items
          | map left right distinct keys entries => exact .map left right distinct keys entries
  | cons name rest ih =>
      rw [follow_path_step, follow_path_step]
      apply ih
      cases found with
      | none => exact .none
      | some values => exact values.member name

section

variable {left right : Scope} (scopes : Scope.Rearranged left right) (text : String)

include scopes

theorem evaluate_rearranged : Value.Rearranged (left.evaluate text) (right.evaluate text) := by
  rw [evaluate_follow_path, evaluate_follow_path]
  apply follow_path_rearranged
  have outcomes := Expr.evaluate_alike scopes text
  generalize Expr.evaluate text left = first, Expr.evaluate text right = second at outcomes
  cases outcomes with
  | error error => exact .none
  | ok values => exact .some values

theorem interpolate_rearranged :
    Value.Rearranged (left.interpolate text) (right.interpolate text) := by
  rw [Scope.interpolate, Scope.interpolate]
  by_cases path : isPath (trim text.toList)
  · simp only [path, ↓reduceIte, Scope.lookUpPath]
    cases pathNames (trim text.toList) with
    | nil => exact .same nothing
    | cons first rest => exact follow_path_rearranged rest (scopes first)
  · simp only [path, Bool.false_eq_true, ↓reduceIte]
    exact evaluate_rearranged scopes _

end

end MarkupTemplate
