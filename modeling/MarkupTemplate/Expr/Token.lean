import MarkupTemplate.Expr.Error
import MarkupTemplate.Text.Blank
import MarkupTemplate.Text.Digits
import MarkupTemplate.Text.Letter

/-!
Tokens of expressions. Every scanner here counts how many characters a token
has beyond its first, so a token is never empty and its text is always a piece of the
source. Blanks separate tokens and belong to none.
-/

namespace MarkupTemplate.Expr

inductive TokenKind where
  | integer
  | float
  | string
  | rawString
  | character
  | identifier
  | symbol
  deriving DecidableEq

structure Token where
  kind : TokenKind
  /-- The text of the token, quotes included. -/
  text : String
  /-- The source behind the token and the blanks after it. -/
  tail : List Char

/-- Longer symbols stand before their own beginnings. -/
def symbols : List String :=
  ["||", "&&", "==", "!=", "<=", ">=", "<", ">", "+", "-", "*", "/", "%", "!", "(", ")", "[", "]",
   "."]

/-- Counts the characters up to and with the closing quote. Between backticks nothing is escaped. -/
def quotedLength (quote : Char) : Bool → List Char → Option Nat
  | _, [] => none
  | escaped, c :: rest =>
      if c = '\\' ∧ quote ≠ '\x60' then (quotedLength quote (!escaped) rest).map (· + 1)
      else if c = quote ∧ escaped = false then some 1
      else (quotedLength quote false rest).map (· + 1)

def digitsLength (base : Nat) (text : List Char) : Nat :=
  (text.takeWhile fun c => isDigitIn base c || c == '_').length

def baseOf (mark : Char) : Option Nat :=
  if mark = 'x' ∨ mark = 'X' then some 16
  else if mark = 'o' ∨ mark = 'O' then some 8
  else if mark = 'b' ∨ mark = 'B' then some 2
  else none

def startsWithDigit : List Char → Bool
  | [] => false
  | c :: _ => c.isDigit

def fractionLength : List Char → Nat
  | '.' :: rest => if startsWithDigit rest then 1 + digitsLength 10 rest else 0
  | _ => 0

def exponentLength : List Char → Nat
  | mark :: rest =>
      if mark = 'e' ∨ mark = 'E' then
        let sign := if rest.head? = some '+' ∨ rest.head? = some '-' then 1 else 0
        if startsWithDigit (rest.drop sign) then 1 + sign + digitsLength 10 (rest.drop sign) else 0
      else 0
  | [] => 0

def decimalLength (text : List Char) : TokenKind × Nat :=
  let whole := digitsLength 10 text
  let fraction := fractionLength (text.drop whole)
  let exponent := exponentLength (text.drop (whole + fraction))
  (if fraction + exponent = 0 then .integer else .float, whole + fraction + exponent)

def numberLength : List Char → TokenKind × Nat
  | '0' :: mark :: rest =>
      match baseOf mark with
      | some base => (.integer, 2 + digitsLength base rest)
      | none => decimalLength ('0' :: mark :: rest)
  | text => decimalLength text

def isIdentifierStart (c : Char) : Bool := isLetter c || c == '_'

def isIdentifierPart (c : Char) : Bool := isLetterOrNumeral c || c == '_'

def quotedToken (kind : TokenKind) (quote : Char) (rest : List Char) :
    Except Fault (TokenKind × Nat) :=
  match quotedLength quote false rest with
  | some more => .ok (kind, more)
  | none => .error .unterminatedLiteral

/-- The kind of the token at the start of a text, and its length beyond the first character. -/
def scan (first : Char) (rest : List Char) : Except Fault (TokenKind × Nat) :=
  if first = '"' then quotedToken .string first rest
  else if first = '\x60' then quotedToken .rawString first rest
  else if first = '\'' then quotedToken .character first rest
  else if first.isDigit || (first == '.' && startsWithDigit rest) then
    let (kind, length) := numberLength (first :: rest)
    .ok (kind, length - 1)
  else if isIdentifierStart first then .ok (.identifier, (rest.takeWhile isIdentifierPart).length)
  else
    match symbols.find? fun symbol => symbol.toList.isPrefixOf (first :: rest) with
    | some symbol => .ok (.symbol, symbol.length - 1)
    | none => .error (.unexpectedCharacter first)

/-- The tokens of a text up to its end or up to the first error. -/
structure Lexed where
  tokens : List Token
  failure : Option Error

def Lexed.push (token : Token) (lexed : Lexed) : Lexed :=
  { lexed with tokens := token :: lexed.tokens }

/-- Reads on behind `skip` characters that belong to the token before. -/
def lexAfter : Nat → List Char → Lexed
  | _, [] => ⟨[], none⟩
  | skip + 1, _ :: rest => lexAfter skip rest
  | 0, first :: rest =>
      if isBlank first then lexAfter 0 rest
      else
        match scan first rest with
        | .error fault => ⟨[], some (faultAt fault (first :: rest))⟩
        | .ok (kind, more) =>
            (lexAfter more rest).push
              ⟨kind, String.ofList (first :: rest.take more), trimStart (rest.drop more)⟩

def lex (source : String) : Lexed := lexAfter 0 (trim source.toList)

end MarkupTemplate.Expr
