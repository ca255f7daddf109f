import MarkupTemplate.Expr.Literal

/-!
The grammar of expressions, one level for every row of operators. A binary
operator has a phrase of its own level on the left and one of the next tighter
level on the right, so that operators of one level associate to the left. The
last index counts terms: operands, prefix operators, parentheses and accesses.
-/

namespace MarkupTemplate.Expr

/-- The levels of binary operators, from the loosest to the tightest. -/
inductive Level where
  | disjunction
  | conjunction
  | comparison
  | sum
  | product

inductive Phrase where
  | joined (level : Level)
  | unary
  | accessed
  | primary

def Level.operators : Level → List (String × BinaryOp)
  | .disjunction => [("||", .or)]
  | .conjunction => [("&&", .and)]
  | .comparison =>
      [("==", .equal), ("!=", .unequal), ("<", .less), ("<=", .atMost), (">", .greater),
       (">=", .atLeast)]
  | .sum => [("+", .add), ("-", .subtract)]
  | .product => [("*", .multiply), ("/", .divide), ("%", .remainder)]

def Level.tighter : Level → Phrase
  | .disjunction => .joined .conjunction
  | .conjunction => .joined .comparison
  | .comparison => .joined .sum
  | .sum => .joined .product
  | .product => .unary

def signs : List (String × UnaryOp) := [("!", .not), ("-", .negate), ("+", .plus)]

def reserved : List (String × Value) :=
  [("true", .bool true), ("false", .bool false), ("nil", .null), ("null", .null)]

def Token.Is (symbol : String) (token : Token) : Prop :=
  token.kind = .symbol ∧ token.text = symbol

/-- The value of a literal token. -/
inductive Denotes : Token → Value → Prop where
  | integer (token : Token) (number : Int64) : token.kind = .integer →
      integerValue token.text.toList = some number → Denotes token (.int number)
  | float (token : Token) (number : Binary64) : token.kind = .float →
      Binary64.read (withoutUnderscores token.text.toList) = some number →
      Denotes token (.float number)
  | quoted (token : Token) (content : String) :
      token.kind ∈ [.string, .rawString, .character] →
      stringValue token.kind token.text.toList = .ok content → Denotes token (.string content)
  | word (token : Token) (value : Value) : token.kind = .identifier →
      (token.text, value) ∈ reserved → Denotes token value

inductive Derives : Phrase → List Token → Expr → Nat → Prop where
  | tighter (level : Level) (tokens : List Token) (expr : Expr) (terms : Nat) :
      Derives level.tighter tokens expr terms → Derives (.joined level) tokens expr terms
  | join (level : Level) (before after : List Token) (token : Token) (symbol : String)
      (op : BinaryOp) (left right : Expr) (leftTerms rightTerms : Nat) :
      Derives (.joined level) before left leftTerms →
      (symbol, op) ∈ level.operators → token.Is symbol →
      Derives level.tighter after right rightTerms →
      Derives (.joined level) (before ++ token :: after) (.binary op left right)
        (leftTerms + rightTerms)
  | signed (token : Token) (tokens : List Token) (symbol : String) (op : UnaryOp) (operand : Expr)
      (terms : Nat) : (symbol, op) ∈ signs → token.Is symbol →
      Derives .unary tokens operand terms →
      Derives .unary (token :: tokens) (.unary op operand) (1 + terms)
  | unsigned (tokens : List Token) (expr : Expr) (terms : Nat) :
      Derives .accessed tokens expr terms → Derives .unary tokens expr terms
  | member (tokens : List Token) (dot name : Token) (base : Expr) (terms : Nat) :
      Derives .accessed tokens base terms → dot.Is "." → name.kind = .identifier →
      Derives .accessed (tokens ++ [dot, name]) (.member base name.text) (terms + 1)
  | index (tokens inside : List Token) (opening closing : Token) (base position : Expr)
      (terms insideTerms : Nat) :
      Derives .accessed tokens base terms → opening.Is "[" →
      Derives (.joined .disjunction) inside position insideTerms → closing.Is "]" →
      Derives .accessed (tokens ++ opening :: (inside ++ [closing])) (.index base position)
        (terms + (1 + insideTerms))
  | unaccessed (tokens : List Token) (expr : Expr) (terms : Nat) :
      Derives .primary tokens expr terms → Derives .accessed tokens expr terms
  | literal (token : Token) (value : Value) :
      Denotes token value → Derives .primary [token] (.literal value) 1
  | variable (token : Token) : token.kind = .identifier →
      token.text ∉ reserved.map Prod.fst → Derives .primary [token] (.variable token.text) 1
  | parenthesis (inside : List Token) (opening closing : Token) (expr : Expr) (terms : Nat) :
      opening.Is "(" → Derives (.joined .disjunction) inside expr terms → closing.Is ")" →
      Derives .primary (opening :: (inside ++ [closing])) expr (1 + terms)

/-- The precedence that the operators of a level have. -/
def Level.rank : Level → Nat
  | .disjunction => 1
  | .conjunction => 2
  | .comparison => 3
  | .sum => 4
  | .product => 5

theorem mem_operators_iff (level : Level) (symbol : String) (op : BinaryOp) :
    (symbol, op) ∈ level.operators ↔ symbol = op.symbol ∧ op.precedence = level.rank := by
  cases level <;> cases op <;>
    simp [Level.operators, Level.rank, BinaryOp.symbol, BinaryOp.precedence]

theorem of_symbol_iff (text : String) (op : BinaryOp) :
    BinaryOp.ofSymbol text = some op ↔ text = op.symbol := by
  constructor
  · intro found
    have hit := List.find?_some found
    exact (beq_iff_eq.mp hit).symm
  · rintro rfl
    cases op <;> rfl

theorem mem_signs_iff (symbol : String) (op : UnaryOp) :
    (symbol, op) ∈ signs ↔ UnaryOp.ofSymbol symbol = some op := by
  unfold UnaryOp.ofSymbol
  split <;> simp_all [signs, eq_comm]

theorem mem_reserved_iff (text : String) (value : Value) :
    (text, value) ∈ reserved ↔ wordValue text = some value := by
  unfold wordValue
  split <;> simp_all [reserved, eq_comm]

theorem unreserved_iff (text : String) :
    text ∉ reserved.map Prod.fst ↔ wordValue text = none := by
  unfold wordValue
  split <;> simp_all [reserved]

theorem of_token_denotes (token : Token) (value : Value) (denotes : Denotes token value) :
    ofToken token = .ok (.literal value) := by
  cases denotes with
  | integer number kind found => simp [ofToken, kind, found]
  | float number kind found => simp [ofToken, kind, found]
  | quoted content kind found =>
      simp only [List.mem_cons, List.not_mem_nil, or_false] at kind
      rcases kind with kind | kind | kind <;>
        · rw [kind] at found
          simp [ofToken, kind, found]
  | word _ kind found => simp [ofToken, kind, (mem_reserved_iff token.text value).mp found]

theorem of_token_variable (token : Token) (kind : token.kind = .identifier)
    (free : token.text ∉ reserved.map Prod.fst) :
    ofToken token = .ok (.variable token.text) := by
  simp [ofToken, kind, (unreserved_iff token.text).mp free]

theorem of_token_derives (token : Token) (expr : Expr) (read : ofToken token = .ok expr) :
    Derives .primary [token] expr 1 := by
  cases kind : token.kind with
  | integer =>
      cases found : integerValue token.text.toList with
      | some number =>
          simp only [ofToken, kind, found] at read
          cases read
          exact .literal token _ (.integer token number kind found)
      | none => simp [ofToken, kind, found] at read
  | float =>
      cases found : Binary64.read (withoutUnderscores token.text.toList) with
      | some number =>
          simp only [ofToken, kind, found] at read
          cases read
          exact .literal token _ (.float token number kind found)
      | none => simp [ofToken, kind, found] at read
  | string | rawString | character =>
      cases found : stringValue token.kind token.text.toList with
      | ok content =>
          simp only [ofToken, kind] at read
          simp only [kind] at found
          simp only [found] at read
          cases read
          exact .literal token _ (.quoted token content (by simp [kind]) (by rw [kind, found]))
      | error fault =>
          simp only [kind] at found
          simp [ofToken, kind, found] at read
  | identifier =>
      cases found : wordValue token.text with
      | some value =>
          simp only [ofToken, kind, found] at read
          cases read
          exact .literal token value
            (.word token value kind ((mem_reserved_iff token.text value).mpr found))
      | none =>
          simp only [ofToken, kind, found] at read
          cases read
          exact .variable token kind ((unreserved_iff token.text).mpr found)
  | symbol => simp [ofToken, kind] at read

end MarkupTemplate.Expr
