import MarkupTemplate.Text.Quoted

/-!
What can go wrong with an expression, and the messages. A malformed expression
is reported with the text at which reading stopped, cut to thirty-two characters.
-/

namespace MarkupTemplate.Expr

inductive Fault where
  | unterminatedLiteral
  | unexpectedCharacter (found : Char)
  | tooComplex
  | expected (symbol : String)
  | expectedMember
  | unexpectedEnd
  | invalidInteger
  | invalidFloat
  | invalidEscape
  | invalidCharacter
  | unexpectedToken (text : String)
  deriving DecidableEq

inductive Error where
  | malformed (fault : Fault) (near : String)
  | unknownIdentifier (name : String)
  | call (source : String)
  | unary (operator kind : String)
  | binary (operator left right : String)
  | divisionByZero
  | member (name kind : String)
  | index (shown kind : String)
  deriving DecidableEq

def shownLength : Nat := 32

/-- The error for a fault before the given text. -/
def faultAt (fault : Fault) (text : List Char) : Error :=
  .malformed fault (String.ofList (text.take shownLength))

def Fault.message : Fault → String
  | .unterminatedLiteral => "unterminated literal"
  | .unexpectedCharacter found => "unexpected character " ++ Quoted.char found
  | .tooComplex => "expression too complex"
  | .expected symbol => "expected " ++ symbol
  | .expectedMember => "expected member name"
  | .unexpectedEnd => "unexpected end of expression"
  | .invalidInteger => "invalid integer"
  | .invalidFloat => "invalid float"
  | .invalidEscape => "invalid escape"
  | .invalidCharacter => "invalid character literal"
  | .unexpectedToken text => "unexpected " ++ text

def Error.message : Error → String
  | .malformed fault near => fault.message ++ " near \"" ++ near ++ "\""
  | .unknownIdentifier name => "unknown identifier: " ++ name
  | .call source => "function calls are not supported near \"" ++ source ++ "\""
  | .unary operator kind => "unsupported operand " ++ kind ++ " for unary " ++ operator
  | .binary operator left right =>
      "unsupported operands " ++ left ++ " " ++ operator ++ " " ++ right
  | .divisionByZero => "division by zero"
  | .member name kind => kind ++ " has no member " ++ name
  | .index shown kind => "invalid index " ++ shown ++ " into " ++ kind

end MarkupTemplate.Expr
