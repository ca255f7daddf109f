import MarkupTemplate.Expr.Basic
import MarkupTemplate.Expr.Token

/-!
What literal tokens denote. Underscores in numbers have no meaning. In quoted
literals a backslash starts an escape; between backticks every character stands for itself.
-/

namespace MarkupTemplate.Expr

def withoutUnderscores (text : List Char) : List Char := text.filter (· ≠ '_')

def numeralOf (digits : List Char) : Option Nat :=
  match digits with
  | '0' :: mark :: rest =>
      match baseOf mark with
      | some base => readNumeral base rest
      | none => readNumeral 10 digits
  | _ => readNumeral 10 digits

def integerValue (text : List Char) : Option Int64 :=
  ((numeralOf (withoutUnderscores text)).filter (· < Nat.pow 2 63)).map fun size =>
    Int64.ofInt (Int.ofNat size)

/-- The number of digits after an escape that gives a code point. -/
def codeLength (mark : Char) : Option Nat :=
  if mark = 'x' then some 2
  else if mark = 'u' then some 4
  else if mark = 'U' then some 8
  else none

/-- Reads a code point; a plus sign may stand before its digits. -/
def codeValue (digits : List Char) : Option Char :=
  let unsigned :=
    match digits with
    | '+' :: rest => rest
    | _ => digits
  ((readNumeral 16 unsigned).filter fun code => decide code.isValidChar).map Char.ofNat

def simpleEscape : Char → Option Char
  | 'n' => some '\n'
  | 't' => some '\t'
  | 'r' => some '\r'
  | 'a' => some '\x07'
  | 'b' => some '\x08'
  | 'f' => some '\x0C'
  | 'v' => some '\x0B'
  | '0' => some '\x00'
  | '\\' => some '\\'
  | '"' => some '"'
  | '\'' => some '\''
  | _ => none

/-- Decodes the inside of a quoted literal of which `skip` characters are already consumed. -/
def decodeAfter : Nat → List Char → Option (List Char)
  | _, [] => some []
  | skip + 1, _ :: rest => decodeAfter skip rest
  | 0, c :: rest =>
      if c = '\\' then
        match rest with
        | [] => none
        | mark :: body =>
            match codeLength mark with
            | some length => do
                let decoded ← codeValue (body.take length)
                let tail ← decodeAfter (1 + length) rest
                return decoded :: tail
            | none => do
                let decoded ← simpleEscape mark
                let tail ← decodeAfter 1 rest
                return decoded :: tail
      else (decodeAfter 0 rest).map (c :: ·)

/-- The text between the quotes of a literal token. -/
def between (text : List Char) : List Char := (text.drop 1).dropLast

def stringValue (kind : TokenKind) (text : List Char) : Except Fault String :=
  if kind = .rawString then .ok (String.ofList (between text))
  else
    match decodeAfter 0 (between text) with
    | none => .error .invalidEscape
    | some decoded =>
        if kind = .character ∧ decoded.length ≠ 1 then .error .invalidCharacter
        else .ok (String.ofList decoded)

/-- The words that are literals where an operand stands. -/
def wordValue : String → Option Value
  | "true" => some (.bool true)
  | "false" => some (.bool false)
  | "nil" => some .null
  | "null" => some .null
  | _ => none

/-- The operand that a single token stands for. -/
def ofToken (token : Token) : Except Error Expr :=
  let text := token.text.toList
  match token.kind with
  | .integer =>
      match integerValue text with
      | some number => .ok (.literal (.int number))
      | none => .error (faultAt .invalidInteger text)
  | .float =>
      match Binary64.read (withoutUnderscores text) with
      | some number => .ok (.literal (.float number))
      | none => .error (faultAt .invalidFloat text)
  | .string | .rawString | .character =>
      match stringValue token.kind text with
      | .ok content => .ok (.literal (.string content))
      | .error fault => .error (faultAt fault text)
  | .identifier => .ok ((wordValue token.text).elim (.variable token.text) .literal)
  | .symbol => .error (faultAt (.unexpectedToken token.text) text)

end MarkupTemplate.Expr
