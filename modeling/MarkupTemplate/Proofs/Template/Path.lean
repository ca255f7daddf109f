import MarkupTemplate.Proofs.Expr.Acceptance
import MarkupTemplate.Proofs.Expr.Accesses
import MarkupTemplate.Template.Interpolation

/-!
Dotted paths, looked up name by name and read as expressions. Where a text parses, both
ways give one value: a step that is missing or null ends the look-up, and makes the evaluation fail
or end in null. Only the reserved words tell them apart, since a scope may bind them as names.
-/

namespace MarkupTemplate

open MarkupTemplate.Expr

/-- A dotted path that begins with a word that is a literal in expressions. -/
def BeginsReserved (path : List Char) : Prop :=
  isPath path = true ∧ ∃ word ∈ Expr.reserved.map Prod.fst, (pathNames path).head? = some word

instance decidableBeginsReserved (path : List Char) : Decidable (BeginsReserved path) :=
  inferInstanceAs (Decidable (_ ∧ ∃ word ∈ Expr.reserved.map Prod.fst, _))

/-- What is printed for the outcome of an evaluation. -/
def printed : Except Expr.Error Value → Value
  | .ok .null => nothing
  | .ok value => value
  | .error _ => nothing

theorem evaluate_parsed (scope : Scope) (text : String) (expr : Expr)
    (read : Expr.parse text = .ok expr) : scope.evaluate text = printed (expr.eval scope) := by
  have step : Expr.evaluate text scope = expr.eval scope := by
    rw [Expr.evaluate, read]
    rfl
  rw [Scope.evaluate, step]
  rfl

theorem eval_member (scope : Scope) (base : Expr) (name : String) :
    ((Expr.member base name).eval scope).toOption =
      (base.eval scope).toOption.bind fun value => value.member name := by
  rw [Expr.eval]
  cases base.eval scope with
  | error failure => rfl
  | ok value =>
      change _ = value.member name
      simp only [bind, Except.bind]
      cases value.member name <;> rfl

theorem printed_member_of (scope : Scope) (base : Expr) (names : List String) :
    printed ((memberOf base names).eval scope) = followPath (base.eval scope).toOption names := by
  induction names generalizing base with
  | nil =>
      rw [memberOf, List.foldl_nil]
      cases base.eval scope with
      | error failure => rfl
      | ok value => cases value <;> rfl
  | cons name rest ih =>
      have behind := ih (.member base name)
      rw [follow_path_step, ← eval_member]
      exact behind

theorem eval_variable (scope : Scope) (name : String) :
    ((Expr.variable name).eval scope).toOption = scope.find name := by
  rw [Expr.eval]
  cases scope.find name <;> rfl

/-- The characters of paths, and what the scanner takes them for. -/
def pathRanges : List CodeRange :=
  [(0x2E, 0x2E), (0x30, 0x39), (0x41, 0x5A), (0x5F, 0x5F), (0x61, 0x7A)]

theorem ranges_of_path (c : Char) (part : isPathPart c = true) : inRanges pathRanges c = true := by
  simp only [isPathPart, Char.isAlphanum, Bool.or_eq_true, beq_iff_eq] at part
  rw [inRanges_iff]
  rcases part with ((alpha | digit) | rfl) | rfl
  · rcases code_of_isAlpha c alpha with upper | lower
    · exact ⟨(0x41, 0x5A), by simp [pathRanges], upper⟩
    · exact ⟨(0x61, 0x7A), by simp [pathRanges], lower⟩
  · exact ⟨(0x30, 0x39), by simp [pathRanges], code_of_isDigit c digit⟩
  · exact ⟨(0x5F, 0x5F), by simp [pathRanges], by decide⟩
  · exact ⟨(0x2E, 0x2E), by simp [pathRanges], by decide⟩

theorem path_not_blank (c : Char) (part : isPathPart c = true) : isBlank c = false :=
  apart_outside pathRanges blankRanges (by decide) c (ranges_of_path c part)

theorem path_parts (path : List Char) (shaped : isPath path = true) :
    ∀ c ∈ path, isPathPart c = true := by
  cases path with
  | nil => cases shaped
  | cons first rest =>
      simp only [isPath, isPathStart, Bool.and_eq_true, Bool.or_eq_true, List.all_eq_true] at shaped
      intro c member
      rcases List.mem_cons.mp member with rfl | member
      · rcases shaped.1 with alpha | underscore
        · simp [isPathPart, Char.isAlphanum, alpha]
        · simp [isPathPart, underscore]
      · exact shaped.2 c member

theorem path_symbol (symbol : String) (known : symbol ∈ Expr.symbols)
    (parts : ∀ c ∈ symbol.toList, isPathPart c = true) : symbol = "." := by
  have others : ∀ symbol ∈ Expr.symbols, symbol.toList.all isPathPart = true → symbol = "." := by
    decide
  exact others symbol known (List.all_eq_true.mpr parts)

theorem path_start_not_digit (c : Char) (start : isPathStart c = true) : c.isDigit = false := by
  rw [Bool.eq_false_iff]
  intro digit
  have numeral := code_of_isDigit c digit
  simp only [isPathStart, Bool.or_eq_true, beq_iff_eq] at start
  rcases start with alpha | rfl
  · have letter := code_of_isAlpha c alpha
    omega
  · revert digit
    decide

-- The first token of a path is a name, since a path starts with a letter or an underscore.
theorem path_begins (path others : List Char) (first : Expr.Token)
    (shaped : isPath path = true) (scanned : Expr.ScannedIn path first)
    (whole : first.text.toList ++ others = path)
    (dots : first.kind = .symbol → first.text = ".") : first.kind = .identifier := by
  obtain ⟨c, rest, length, _, scans, same⟩ := scanned
  have start : isPathStart c = true := by
    rw [← whole, same, String.toList_ofList, List.cons_append, isPath, Bool.and_eq_true] at shaped
    exact shaped.1
  have plain : ('.' :: Expr.quotes).all (!isPathStart ·) = true := by decide
  have excluded : ∀ other ∈ '.' :: Expr.quotes, c ≠ other := by
    rintro other member rfl
    have not := List.all_eq_true.mp plain c member
    rw [start] at not
    cases not
  generalize first.kind = kind at scans dots ⊢
  cases scans with
  | quoted _ _ quote _ => exact (excluded c (List.mem_cons_of_mem _ quote) rfl).elim
  | number _ _ digit _ =>
      rcases digit with digit | dot
      · rw [path_start_not_digit c start] at digit
        cases digit
      · exact (excluded '.' List.mem_cons_self dot).elim
  | identifier _ => rfl
  | symbol _ _ _ =>
      have front := congrArg (fun text => text.toList.head?) (same.symm.trans (dots rfl))
      simp only [String.toList_ofList, List.head?_cons] at front
      exact (excluded '.' List.mem_cons_self (Option.some.inj front)).elim

theorem look_up_path_eq_evaluate (scope : Scope) (path : List Char) (expr : Expr)
    (shaped : isPath path = true) (read : Expr.parse (String.ofList path) = .ok expr)
    (free : ¬ BeginsReserved path) :
    scope.lookUpPath path = scope.evaluate (String.ofList path) := by
  have parts := path_parts path shaped
  have dark : ∀ c ∈ path, isBlank c = false := fun c member => path_not_blank c (parts c member)
  obtain ⟨clean, terms, _, derives⟩ := Expr.parse_sound _ expr read
  rw [Expr.lex, String.toList_ofList, trim_dark path dark] at clean derives
  have scanned := lex_scanned 0 path
  have texts := lex_texts 0 path dark clean
  have plain : OnlyDots (lexAfter 0 path).tokens := fun token member kind =>
    path_symbol token.text (symbol_text path token (scanned token member) kind) fun c inside =>
      parts c (scanned_chars path token (scanned token member) c inside)
  obtain ⟨first, rest, base, names, tokens, readFirst, dotted, rfl⟩ :=
    only_dots_derived _ _ expr terms derives plain
  rw [tokens] at scanned texts plain
  rw [List.flatMap_cons, List.drop_zero] at texts
  have firstScanned := scanned first List.mem_cons_self
  have kind := path_begins path _ first shaped firstScanned texts (plain first List.mem_cons_self)
  have named := identifier_parts _ (identifier_text path first firstScanned kind)
  have whole : '.' ∉ first.text.toList := fun member => part_not_dot '.' (named '.' member) rfl
  have parted : pathNames path = first.text :: names := by
    have split := dotted_split path rest names dotted
      (fun token member => scanned token (List.mem_cons_of_mem first member)) first.text.toList
      whole
    rw [pathNames, ← texts, split]
    simp [Function.comp_def]
  have unreserved : first.text ∉ Expr.reserved.map Prod.fst := fun member =>
    free ⟨shaped, first.text, member, by rw [parted]; rfl⟩
  rw [of_token_variable first kind unreserved] at readFirst
  cases readFirst
  rw [evaluate_parsed scope _ _ read, printed_member_of, eval_variable, Scope.lookUpPath, parted]

/-- Where a trimmed text parses, and is no path that begins with a reserved word, what it prints is
the value of the expression. -/
theorem interpolate_eq_evaluate (scope : Scope) (text : String)
    (parses : ∃ expr, Expr.parse (trimText text) = .ok expr)
    (free : ¬ BeginsReserved (trim text.toList)) :
    scope.interpolate text = scope.evaluate (trimText text) := by
  obtain ⟨expr, read⟩ := parses
  rw [Scope.interpolate]
  by_cases shaped : isPath (trim text.toList) = true
  · simp only [shaped, ↓reduceIte]
    exact look_up_path_eq_evaluate scope _ expr shaped read free
  · simp only [shaped, Bool.false_eq_true, ↓reduceIte]
    rfl

/-- A user whose name is a record, bound over a context without one. -/
def sampleScope : Scope :=
  (Scope.root [("user", .null)]).child "user"
    (.map [("name", .record "Name" [("first", .string "Ada")] [("first", .string "Ada")])])

theorem interpolate_eq_evaluate_user :
    (∃ expr, Expr.parse (trimText "\tuser.name.first ") = .ok expr) ∧
      ¬ BeginsReserved (trim "\tuser.name.first ".toList) ∧
      sampleScope.interpolate "\tuser.name.first " =
        sampleScope.evaluate (trimText "\tuser.name.first ") := by
  have parses : ∃ expr, Expr.parse (trimText "\tuser.name.first ") = .ok expr := ⟨_, by rfl⟩
  have free : ¬ BeginsReserved (trim "\tuser.name.first ".toList) := by decide
  exact ⟨parses, free, interpolate_eq_evaluate sampleScope _ parses free⟩

-- A binding of a reserved word is found by the look-up alone.
example : ((Scope.root [("nil", .int 1)]).interpolate "nil").kind = "int" ∧
    ((Scope.root [("nil", .int 1)]).evaluate "nil").kind = "string" := by decide

end MarkupTemplate
