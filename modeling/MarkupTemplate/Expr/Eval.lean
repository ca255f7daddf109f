import MarkupTemplate.Expr.Parser
import MarkupTemplate.Scope
import MarkupTemplate.Value.Access
import MarkupTemplate.Value.Equality
import MarkupTemplate.Value.Order

/-!
Evaluation of expressions. Arithmetic works on floats, except that the remainder
needs two integers; `+` joins texts where either side is a string. Both
logical operators leave the right side alone where the left one decides. Any error ends the
evaluation.
-/

namespace MarkupTemplate

namespace Expr

def applyUnary (op : UnaryOp) (value : Value) : Except Error Value :=
  match op with
  | .not => .ok (.bool (!value.isTruthy))
  | .negate =>
      match value.asFloat with
      | some number => .ok (.float number.negate)
      | none => .error (.unary op.symbol value.kind)
  | .plus =>
      match value.asFloat with
      | some number => .ok (.float number)
      | none => .error (.unary op.symbol value.kind)

def unsupported (op : BinaryOp) (left right : Value) : Error :=
  .binary op.symbol left.kind right.kind

def ordered (op : BinaryOp) (holds : Ordering → Bool) (left right : Value) : Except Error Value :=
  match left.compare? right with
  | some ordering => .ok (.bool (holds ordering))
  | none => .error (unsupported op left right)

def arithmetic (op : BinaryOp) (apply : Binary64 → Binary64 → Except Error Binary64)
    (left right : Value) : Except Error Value :=
  match left.asFloat, right.asFloat with
  | some leftNumber, some rightNumber => (apply leftNumber rightNumber).map .float
  | _, _ => .error (unsupported op left right)

def quotient (dividend divisor : Binary64) : Except Error Binary64 :=
  if divisor.isZero then .error .divisionByZero else .ok (dividend.divide divisor)

def isString : Value → Bool
  | .string _ => true
  | _ => false

def sum (left right : Value) : Except Error Value :=
  if isString left || isString right then .ok (.string (left.display ++ right.display))
  else arithmetic .add (fun x y => .ok (x.add y)) left right

/-- The remainder takes the sign of the dividend. -/
def remainder (left right : Value) : Except Error Value :=
  match left.asInt, right.asInt with
  | some dividend, some divisor =>
      if divisor = 0 then .error .divisionByZero
      else .ok (.int (Int64.ofInt (dividend.toInt.tmod divisor.toInt)))
  | _, _ => .error (unsupported .remainder left right)

/-- Applies an operator to two values. The logical operators, applied to values, look at both. -/
def applyBinary (op : BinaryOp) (left right : Value) : Except Error Value :=
  match op with
  | .or => .ok (.bool (left.isTruthy || right.isTruthy))
  | .and => .ok (.bool (left.isTruthy && right.isTruthy))
  | .equal => .ok (.bool (left.equals right))
  | .unequal => .ok (.bool (!left.equals right))
  | .less => ordered op (· == .lt) left right
  | .atMost => ordered op (· != .gt) left right
  | .greater => ordered op (· == .gt) left right
  | .atLeast => ordered op (· != .lt) left right
  | .add => sum left right
  | .subtract => arithmetic op (fun x y => .ok (x.subtract y)) left right
  | .multiply => arithmetic op (fun x y => .ok (x.multiply y)) left right
  | .divide => arithmetic op quotient left right
  | .remainder => remainder left right

def eval (scope : Scope) : Expr → Except Error Value
  | .literal value => .ok value
  | .variable name =>
      match scope.find name with
      | some value => .ok value
      | none => .error (.unknownIdentifier name)
  | .unary op operand => do
      let value ← eval scope operand
      applyUnary op value
  | .binary .and left right => do
      let value ← eval scope left
      if value.isTruthy then return .bool (← eval scope right).isTruthy else return .bool false
  | .binary .or left right => do
      let value ← eval scope left
      if value.isTruthy then return .bool true else return .bool (← eval scope right).isTruthy
  | .binary op left right => do
      let leftValue ← eval scope left
      let rightValue ← eval scope right
      applyBinary op leftValue rightValue
  | .member base name => do
      let value ← eval scope base
      match value.member name with
      | some found => return found
      | none => throw (.member name value.kind)
  | .index base position => do
      let value ← eval scope base
      let place ← eval scope position
      match value.atIndex place with
      | some found => return found
      | none => throw (.index place.display value.kind)

/-- Parses and evaluates an expression. -/
def evaluate (text : String) (scope : Scope) : Except Error Value := do
  let expr ← parse text
  eval scope expr

end Expr

end MarkupTemplate
