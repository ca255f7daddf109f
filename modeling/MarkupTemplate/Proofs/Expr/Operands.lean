import Mathlib.Data.List.Basic
import MarkupTemplate.Proofs.Expr.Acceptance
import MarkupTemplate.Proofs.Expr.Identifier

/-!
Expressions written out. Blanks keep the tokens of a text apart: a name ends at the first blank, and
so does an operator. Main statement: two variables with an operator between them, in blanks, are
read as that operator applied to those variables.
-/

namespace MarkupTemplate.Expr

/-! A name in front of a blank or at the end of the text is one token. -/

theorem start_not_digit (c : Char) (start : isIdentifierStart c = true) : c.isDigit = false := by
  rw [Bool.eq_false_iff]
  intro digit
  obtain ⟨least, greatest⟩ := code_of_isDigit c digit
  simp only [isIdentifierStart, isLetter, Bool.or_eq_true, beq_iff_eq] at start
  rcases start with letter | rfl
  · rw [if_pos (by omega)] at letter
    rcases code_of_isAlpha c letter with upper | lower <;> omega
  · exact absurd digit (by decide)

theorem start_unquoted (c : Char) (start : isIdentifierStart c = true) :
    c ≠ '"' ∧ c ≠ '\x60' ∧ c ≠ '\'' ∧ c ≠ '.' := by
  refine ⟨?_, ?_, ?_, ?_⟩ <;>
    · rintro rfl
      revert start
      decide +kernel

theorem scan_identifier (first : Char) (rest : List Char) (start : isIdentifierStart first = true) :
    scan first rest = .ok (.identifier, (rest.takeWhile isIdentifierPart).length) := by
  obtain ⟨notQuote, notBacktick, notMark, notDot⟩ := start_unquoted first start
  have notNumber : ¬(first.isDigit || (first == '.' && startsWithDigit rest)) = true := by
    simp [start_not_digit first start, notDot]
  rw [scan, if_neg notQuote, if_neg notBacktick, if_neg notMark, if_neg notNumber, if_pos start]

theorem lex_drop (skip : Nat) (text : List Char) :
    lexAfter skip text = lexAfter 0 (text.drop skip) := by
  induction text generalizing skip with
  | nil => cases skip <;> rfl
  | cons c rest ih =>
      cases skip with
      | zero => rfl
      | succ skip => exact ih skip

theorem lex_trim_start (text : List Char) : lexAfter 0 (trimStart text) = lexAfter 0 text := by
  induction text with
  | nil => rfl
  | cons c rest ih =>
      cases blank : isBlank c with
      | true => rw [trimStart, List.dropWhile_cons_of_pos blank, lexAfter, if_pos blank]; exact ih
      | false => rw [trimStart, List.dropWhile_cons_of_neg (by simp [blank])]

/-- What a scan takes in front of any rest is one token. -/
theorem lex_token (first : Char) (more after : List Char) (kind : TokenKind)
    (dark : isBlank first = false) (read : scan first (more ++ after) = .ok (kind, more.length)) :
    lexAfter 0 (first :: (more ++ after)) =
      (lexAfter 0 after).push ⟨kind, String.ofList (first :: more), trimStart after⟩ := by
  rw [lexAfter, if_neg (by simp [dark]), read]
  simp only [lex_drop more.length, List.take_left, List.drop_left]

theorem lex_name (name rest : List Char) (identifier : IsIdentifier name)
    (ends : ∀ c ∈ rest.head?, isIdentifierPart c = false) :
    lexAfter 0 (name ++ rest) =
      (lexAfter 0 rest).push ⟨.identifier, String.ofList name, trimStart rest⟩ := by
  cases name with
  | nil => exact identifier.elim
  | cons first parts =>
      have dark := part_not_blank first (identifier_parts _ identifier first List.mem_cons_self)
      have whole : (parts ++ rest).takeWhile isIdentifierPart = parts := by
        rw [List.takeWhile_append_of_pos identifier.2]
        cases rest with
        | nil => exact List.append_nil parts
        | cons c rest =>
            have other := ends c rfl
            rw [List.takeWhile_cons_of_neg (by simp [other]), List.append_nil]
      have read := scan_identifier first (parts ++ rest) identifier.1
      rw [whole] at read
      exact lex_token first parts rest .identifier dark read

theorem lex_blank (text : List Char) : lexAfter 0 (' ' :: text) = lexAfter 0 text := rfl

theorem lex_symbol (op : BinaryOp) (rest : List Char) :
    lexAfter 0 (op.symbol.toList ++ ' ' :: rest) =
      (lexAfter 0 rest).push ⟨.symbol, op.symbol, trimStart rest⟩ := by
  cases op <;> rfl

theorem lex_name_blank (name rest : List Char) (identifier : IsIdentifier name) :
    lexAfter 0 (name ++ ' ' :: rest) =
      (lexAfter 0 rest).push ⟨.identifier, String.ofList name, trimStart rest⟩ := by
  have ends : ∀ c ∈ (' ' :: rest).head?, isIdentifierPart c = false := by
    rintro c ⟨⟩
    decide +kernel
  rw [lex_name name _ identifier ends, lex_blank]
  rfl

theorem lex_name_last (name : List Char) (identifier : IsIdentifier name) :
    lexAfter 0 name = ⟨[⟨.identifier, String.ofList name, []⟩], none⟩ := by
  have read := lex_name name [] identifier nofun
  rw [List.append_nil] at read
  exact read

/-! A token that is an expression is one on every level. -/

theorem derives_primary (phrase : Phrase) (token : Token) (expr : Expr)
    (derives : Derives .primary [token] expr 1) : Derives phrase [token] expr 1 := by
  have accessed := Derives.unaccessed [token] expr 1 derives
  have unary := Derives.unsigned [token] expr 1 accessed
  have product := Derives.tighter .product [token] expr 1 unary
  have sum := Derives.tighter .sum [token] expr 1 product
  have comparison := Derives.tighter .comparison [token] expr 1 sum
  have conjunction := Derives.tighter .conjunction [token] expr 1 comparison
  cases phrase with
  | primary => exact derives
  | accessed => exact accessed
  | unary => exact unary
  | joined level =>
      cases level with
      | product => exact product
      | sum => exact sum
      | comparison => exact comparison
      | conjunction => exact conjunction
      | disjunction => exact .tighter .disjunction [token] expr 1 conjunction

/-- A text of a single token is read as what the token stands for. -/
theorem parse_single (text : String) (token : Token) (lexed : lex text = ⟨[token], none⟩)
    (literal : token.kind ≠ .symbol) : parse text = ofToken token := by
  have unsigned : prefixAt ⟨[token], 1⟩ = none := by simp [prefixAt, literal]
  have counted := count_term_few ⟨text.toList, none⟩ [token] 0 (by decide)
  have advanced := advance_clean ⟨text.toList, none⟩ rfl token [] 1
  cases read : ofToken token with
  | error error =>
      simp [parse, lexed, compound, operand, counted, unsigned, primary, advanced, literal, read,
        bind, Except.bind]
  | ok expr =>
      simp [parse, lexed, compound, operand, counted, unsigned, primary, advanced, literal, read,
        bind, Except.bind, pure, Except.pure, access, compoundRest]

theorem derives_loosest (level : Level) (tokens : List Token) (expr : Expr) (terms : Nat)
    (derives : Derives (.joined level) tokens expr terms) :
    Derives (.joined .disjunction) tokens expr terms := by
  cases level with
  | disjunction => exact derives
  | conjunction => exact .tighter .disjunction _ _ _ derives
  | comparison => exact .tighter .disjunction _ _ _ (.tighter .conjunction _ _ _ derives)
  | sum =>
      exact .tighter .disjunction _ _ _ (.tighter .conjunction _ _ _
        (.tighter .comparison _ _ _ derives))
  | product =>
      exact .tighter .disjunction _ _ _ (.tighter .conjunction _ _ _
        (.tighter .comparison _ _ _ (.tighter .sum _ _ _ derives)))

/-- The level that an operator belongs to. -/
def levelOf (op : BinaryOp) : Level :=
  match op with
  | .or => .disjunction
  | .and => .conjunction
  | .equal | .unequal | .less | .atMost | .greater | .atLeast => .comparison
  | .add | .subtract => .sum
  | .multiply | .divide | .remainder => .product

theorem symbol_of_level (op : BinaryOp) : (op.symbol, op) ∈ (levelOf op).operators := by
  cases op <;> decide

/-- A name that stands for a variable. -/
def IsVariable (name : String) : Prop :=
  IsIdentifier name.toList ∧ name ∉ reserved.map Prod.fst

instance (name : String) : Decidable (IsVariable name) :=
  inferInstanceAs (Decidable (_ ∧ _))

/-- Two names and an operator, with blanks between them. -/
def operation (left : String) (op : BinaryOp) (right : String) : String :=
  left ++ " " ++ op.symbol ++ " " ++ right

theorem trim_around (left middle right : List Char) (isLeft : IsIdentifier left)
    (isRight : IsIdentifier right) : trim (left ++ middle ++ right) = left ++ middle ++ right := by
  have dark (name : List Char) (identifier : IsIdentifier name) :
      name ≠ [] ∧ ∀ c ∈ name, isBlank c = false := by
    refine ⟨?_, fun c member => part_not_blank c (identifier_parts name identifier c member)⟩
    rintro rfl
    exact identifier
  obtain ⟨begun, leftDark⟩ := dark left isLeft
  obtain ⟨ended, rightDark⟩ := dark right isRight
  apply trim_dark_ends
  · rw [List.append_assoc, List.head?_append_of_ne_nil _ begun]
    exact fun c first => leftDark c (List.mem_of_mem_head? first)
  · rw [List.getLast?_append_of_ne_nil _ ended]
    exact fun c last => rightDark c (List.mem_of_getLast? last)

theorem lex_operation (left right : String) (op : BinaryOp) (isLeft : IsVariable left)
    (isRight : IsVariable right) : ∃ first second third : Token,
      lex (operation left op right) = ⟨[first, second, third], none⟩ ∧
        (first.kind = .identifier ∧ first.text = left) ∧ second.Is op.symbol ∧
        third.kind = .identifier ∧ third.text = right := by
  have spelled : (operation left op right).toList =
      left.toList ++ ' ' :: (op.symbol.toList ++ ' ' :: right.toList) := by
    simp [operation]
  have whole : left.toList ++ ' ' :: (op.symbol.toList ++ ' ' :: right.toList) =
      left.toList ++ (' ' :: (op.symbol.toList ++ [' '])) ++ right.toList := by simp
  rw [lex, spelled, whole, trim_around _ _ _ isLeft.1 isRight.1, ← whole,
    lex_name_blank left.toList _ isLeft.1, lex_symbol, lex_name_last right.toList isRight.1]
  exact ⟨_, _, _, rfl, ⟨rfl, String.ofList_toList⟩, ⟨rfl, rfl⟩, rfl, String.ofList_toList⟩

/-- An operator between two variables is read as such. -/
theorem parse_operation (left right : String) (op : BinaryOp) (isLeft : IsVariable left)
    (isRight : IsVariable right) :
    parse (operation left op right) = .ok (.binary op (.variable left) (.variable right)) := by
  obtain ⟨first, second, third, lexed, ⟨isName, rfl⟩, isSymbol, isOther, rfl⟩ :=
    lex_operation left right op isLeft isRight
  have one := derives_primary (.joined (levelOf op)) first _ (.variable first isName isLeft.2)
  have two := derives_primary (levelOf op).tighter third _ (.variable third isOther isRight.2)
  have joined := Derives.join (levelOf op) [first] [third] second op.symbol op _ _ 1 1 one
    (symbol_of_level op) isSymbol two
  refine parse_complete _ _ 2 (by rw [lexed]) (by decide) ?_
  rw [lexed]
  exact derives_loosest _ _ _ _ joined

end MarkupTemplate.Expr
