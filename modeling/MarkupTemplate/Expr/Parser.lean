import MarkupTemplate.Expr.Literal

/-!
Parsing of expressions. Operands are joined from the left, each operator with all behind it that
binds more tightly. Every operand, prefix operator, parenthesis and access counts as a term, and
the number of terms is limited, so that neither the parser nor the tree goes deep.

An error of the tokenizer is raised when the token before it is taken.
-/

namespace MarkupTemplate.Expr

def maxTerms : Nat := 256

/-- What stays the same while an expression is read. -/
structure Source where
  text : List Char
  failure : Option Error

/-- The tokens still to be read, and the number of terms so far. -/
structure Cursor where
  tokens : List Token
  terms : Nat

abbrev Reading (α : Type) := Cursor → Except Error (α × Cursor)

/-- The text that an error at the cursor points to. -/
def Cursor.near (source : Source) (cursor : Cursor) : List Char :=
  match cursor.tokens with
  | token :: _ => token.text.toList
  | [] => source.text

def Cursor.isAt (symbol : String) (cursor : Cursor) : Bool :=
  match cursor.tokens with
  | token :: _ => token.kind == .symbol && token.text == symbol
  | [] => false

def countTerm (source : Source) (cursor : Cursor) : Except Error Cursor :=
  if maxTerms ≤ cursor.terms then .error (faultAt .tooComplex (cursor.near source))
  else .ok { cursor with terms := cursor.terms + 1 }

/-- Takes the next token, if there is one. -/
def advance (source : Source) (cursor : Cursor) : Except Error (Option Token × Cursor) :=
  match cursor.tokens with
  | [] => .ok (none, cursor)
  | token :: rest =>
      match rest, source.failure with
      | [], some failure => .error failure
      | _, _ => .ok (some token, { cursor with tokens := rest })

def expect (source : Source) (symbol : String) (cursor : Cursor) : Except Error Cursor :=
  if cursor.isAt symbol then do
    let (_, cursor) ← advance source cursor
    return cursor
  else .error (faultAt (.expected symbol) (cursor.near source))

def binaryAt (cursor : Cursor) : Option BinaryOp :=
  match cursor.tokens with
  | token :: _ => if token.kind = .symbol then BinaryOp.ofSymbol token.text else none
  | [] => none

def prefixAt (cursor : Cursor) : Option UnaryOp :=
  match cursor.tokens with
  | token :: _ => if token.kind = .symbol then UnaryOp.ofSymbol token.text else none
  | [] => none

/-- Reads on behind a left operand while an operator of at least the given precedence follows, at
most `steps` of them. Its right operand takes with it what binds more tightly. -/
def compoundRest (source : Source) (operand : Reading Expr) :
    Nat → Nat → Expr → Reading Expr
  | 0, _, left, cursor => .ok (left, cursor)
  | steps + 1, least, left, cursor =>
      match (binaryAt cursor).filter (least ≤ ·.precedence) with
      | none => .ok (left, cursor)
      | some op => do
          let (_, cursor) ← advance source cursor
          let (next, cursor) ← operand cursor
          let (right, cursor) ← compoundRest source operand steps (op.precedence + 1) next cursor
          compoundRest source operand steps least (.binary op left right) cursor

/-- Reads operands joined by binary operators of at least the given precedence. -/
def compound (source : Source) (operand : Reading Expr) (least : Nat) (cursor : Cursor) :
    Except Error (Expr × Cursor) := do
  let (first, cursor) ← operand cursor
  compoundRest source operand cursor.tokens.length least first cursor

/-- Reads the name behind a dot. -/
def memberName (source : Source) (cursor : Cursor) : Except Error (String × Cursor) := do
  let (taken, cursor) ← advance source cursor
  match taken with
  | some token =>
      if token.kind = .identifier then return (token.text, cursor)
      else .error (faultAt .expectedMember (cursor.near source))
  | none => .error (faultAt .expectedMember (cursor.near source))

/-- Reads the accesses that follow an operand, at most `steps` of them. -/
def access (source : Source) (whole : Reading Expr) :
    Nat → Expr → Cursor → Except Error (Expr × Cursor)
  | 0, base, cursor => .ok (base, cursor)
  | steps + 1, base, cursor =>
      if cursor.isAt "." then do
        let cursor ← countTerm source cursor
        let (_, cursor) ← advance source cursor
        let (name, cursor) ← memberName source cursor
        access source whole steps (.member base name) cursor
      else if cursor.isAt "[" then do
        let cursor ← countTerm source cursor
        let (_, cursor) ← advance source cursor
        let (position, cursor) ← whole cursor
        let cursor ← expect source "]" cursor
        access source whole steps (.index base position) cursor
      else if cursor.isAt "(" then .error (.call (String.ofList source.text))
      else .ok (base, cursor)

/-- Reads a literal, a variable or a parenthesis. -/
def primary (source : Source) (whole : Reading Expr) (cursor : Cursor) :
    Except Error (Expr × Cursor) := do
  let (taken, cursor) ← advance source cursor
  match taken with
  | none => .error (faultAt .unexpectedEnd source.text)
  | some token =>
      if token.kind = .symbol ∧ token.text = "(" then do
        let (inner, cursor) ← whole cursor
        let cursor ← expect source ")" cursor
        return (inner, cursor)
      else do
        let operand ← ofToken token
        return (operand, cursor)

/-- Reads an operand with its prefix operators and accesses. At most `nesting` operands may be open
inside each other. -/
def operand (source : Source) : Nat → Reading Expr
  | 0, cursor => .error (faultAt .tooComplex (cursor.near source))
  | nesting + 1, cursor => do
      let cursor ← countTerm source cursor
      match prefixAt cursor with
      | some op => do
          let (_, cursor) ← advance source cursor
          let (inner, cursor) ← operand source nesting cursor
          return (.unary op inner, cursor)
      | none => do
          let whole := compound source (operand source nesting) 1
          let (base, cursor) ← primary source whole cursor
          access source whole cursor.tokens.length base cursor

/-- Parses a whole expression. -/
def parse (text : String) : Except Error Expr :=
  let lexed := lex text
  let source : Source := ⟨text.toList, lexed.failure⟩
  match lexed.tokens, lexed.failure with
  | [], some failure => .error failure
  | tokens, _ => do
      let (expr, cursor) ← compound source (operand source (maxTerms + 1)) 1 ⟨tokens, 0⟩
      match cursor.tokens with
      | [] => return expr
      | token :: _ => .error (faultAt (.unexpectedToken token.text) token.text.toList)

end MarkupTemplate.Expr
