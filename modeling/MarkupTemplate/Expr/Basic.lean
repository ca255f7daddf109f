import MarkupTemplate.Value.Basic

/-!
The tree of an expression. Binary operators have five levels of precedence;
within a level they associate to the left.
-/

namespace MarkupTemplate

inductive UnaryOp where
  | not
  | negate
  | plus
  deriving DecidableEq

inductive BinaryOp where
  | or
  | and
  | equal
  | unequal
  | less
  | atMost
  | greater
  | atLeast
  | add
  | subtract
  | multiply
  | divide
  | remainder
  deriving DecidableEq

def UnaryOp.symbol : UnaryOp → String
  | .not => "!"
  | .negate => "-"
  | .plus => "+"

def UnaryOp.ofSymbol : String → Option UnaryOp
  | "!" => some .not
  | "-" => some .negate
  | "+" => some .plus
  | _ => none

namespace BinaryOp

def symbol : BinaryOp → String
  | .or => "||"
  | .and => "&&"
  | .equal => "=="
  | .unequal => "!="
  | .less => "<"
  | .atMost => "<="
  | .greater => ">"
  | .atLeast => ">="
  | .add => "+"
  | .subtract => "-"
  | .multiply => "*"
  | .divide => "/"
  | .remainder => "%"

def all : List BinaryOp :=
  [.or, .and, .equal, .unequal, .less, .atMost, .greater, .atLeast, .add, .subtract, .multiply,
   .divide, .remainder]

def ofSymbol (text : String) : Option BinaryOp := all.find? fun op => op.symbol == text

def precedence : BinaryOp → Nat
  | .or => 1
  | .and => 2
  | .equal | .unequal | .less | .atMost | .greater | .atLeast => 3
  | .add | .subtract => 4
  | .multiply | .divide | .remainder => 5

end BinaryOp

inductive Expr where
  | literal (value : Value)
  | variable (name : String)
  | unary (op : UnaryOp) (operand : Expr)
  | binary (op : BinaryOp) (left right : Expr)
  | member (base : Expr) (name : String)
  | index (base index : Expr)

end MarkupTemplate
