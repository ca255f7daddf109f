import MarkupTemplate.Proofs.Expr.Escape
import MarkupTemplate.Proofs.Expr.Lexing
import MarkupTemplate.Proofs.Expr.Operands

/-!
Quoted literals. One scanner finds the quote that ends a literal, and another decodes what stands
before it; a backslash that escapes a character is passed over by the first exactly where the second
takes it. Main statements: with a backslash in front of each backslash and each quote, every text
between quotes is one token, whatever follows, and denotes that text; and a token in double
quotes is accepted exactly where its inside decodes.
-/

namespace MarkupTemplate.Expr

/-- The kinds of quoted literals, and the quotes around them. -/
def quotations : List (TokenKind × Char) :=
  [(.string, '"'), (.rawString, '\x60'), (.character, '\'')]

/-- A text between two quotes. -/
def enclosed (quote : Char) (inside : List Char) : String :=
  String.ofList (quote :: (inside ++ [quote]))

/-- The next quote ends a literal with this inside, whatever stands behind it. -/
def Closes (quote : Char) (inside : List Char) : Prop :=
  ∀ rest, quotedLength quote false (inside ++ quote :: rest) = some (inside.length + 1)

section

variable (kind : TokenKind) (quote : Char) (opens : (kind, quote) ∈ quotations)

include opens

theorem quote_dark : isBlank quote = false := by
  have dark : ∀ entry ∈ quotations, isBlank entry.2 = false := by decide
  exact dark (kind, quote) opens

theorem scan_quote (rest : List Char) : scan quote rest = quotedToken kind quote rest := by
  simp only [quotations, List.mem_cons, Prod.mk.injEq, List.not_mem_nil, or_false] at opens
  rcases opens with ⟨rfl, rfl⟩ | ⟨rfl, rfl⟩ | ⟨rfl, rfl⟩ <;> rfl

theorem lex_literal (inside : List Char) (closes : Closes quote inside) (rest : String) :
    lex (enclosed quote inside ++ rest) =
      (lex rest).push ⟨kind, enclosed quote inside, trim rest.toList⟩ := by
  have dark := quote_dark kind quote opens
  have read (after : List Char) :
      scan quote (inside ++ [quote] ++ after) = .ok (kind, (inside ++ [quote]).length) := by
    have length := closes after
    rw [scan_quote kind quote opens, quotedToken, List.append_assoc, List.singleton_append, length,
      List.length_append, List.length_singleton]
  have trimmed : trim (quote :: (inside ++ [quote]) ++ rest.toList) =
      quote :: (inside ++ [quote] ++ trimEnd rest.toList) := by
    have start : trimStart (quote :: (inside ++ [quote]) ++ rest.toList) =
        quote :: (inside ++ [quote]) ++ rest.toList := by
      rw [List.cons_append, trimStart, List.dropWhile_cons_of_neg (by simp [dark])]
    have last : quote ∈ (quote :: (inside ++ [quote])).getLast? := by
      rw [← List.cons_append, List.getLast?_concat]
      rfl
    rw [trim, start, trim_end_append_dark _ _ quote last dark, List.cons_append]
  rw [lex, String.toList_append, enclosed, String.toList_ofList, trimmed,
    lex_token quote _ _ kind dark (read _), trim_start_end, ← lex_trim_start, trim_start_end, lex]

theorem lex_literal_alone (inside : List Char) (closes : Closes quote inside) :
    lex (enclosed quote inside) = ⟨[⟨kind, enclosed quote inside, []⟩], none⟩ := by
  have read := lex_literal kind quote opens inside closes ""
  rwa [String.append_empty] at read

end

/-- What stands between quotes where a backslash escapes the character behind it. -/
inductive Quotable (quote : Char) : List Char → Prop where
  | nil : Quotable quote []
  | plain (c : Char) (rest : List Char) : c ≠ '\\' → c ≠ quote → Quotable quote rest →
      Quotable quote (c :: rest)
  | escaped (c : Char) (rest : List Char) : Quotable quote rest → Quotable quote ('\\' :: c :: rest)

theorem escaped_length (quote c : Char) (rest : List Char) :
    quotedLength quote true (c :: rest) = (quotedLength quote false rest).map (· + 1) := by
  rw [quotedLength]
  split
  · rfl
  · rw [if_neg (by simp)]

theorem quotable_closes (quote : Char) (escapes : quote ≠ '\x60') (plain : quote ≠ '\\')
    (inside : List Char) (quotable : Quotable quote inside) : Closes quote inside := by
  intro rest
  induction quotable with
  | nil => rw [List.nil_append, quotedLength, if_neg (by simp [plain]), if_pos ⟨rfl, rfl⟩]; rfl
  | plain c inside notBackslash notQuote _ ih =>
      rw [List.cons_append, quotedLength, if_neg (by simp [notBackslash]),
        if_neg (by simp [notQuote]), ih]
      rfl
  | escaped c inside _ ih =>
      rw [List.cons_append, List.cons_append, quotedLength, if_pos ⟨rfl, escapes⟩, Bool.not_false,
        escaped_length, ih]
      rfl

-- Behind a backslash the scanner is in the middle of an escape.
theorem closed_quotable (quote : Char) (escapes : quote ≠ '\x60') (isEscaped : Bool)
    (text : List Char) (more : Nat) (read : quotedLength quote isEscaped text = some more) :
    ∃ inside rest, text = inside ++ quote :: rest ∧ more = inside.length + 1 ∧
      Quotable quote (if isEscaped then '\\' :: inside else inside) := by
  fun_induction quotedLength quote isEscaped text generalizing more with
  | case1 => cases read
  | case2 isEscaped c rest backslash ih =>
      obtain ⟨last, found, rfl⟩ := Option.map_eq_some_iff.mp read
      obtain ⟨inside, behind, rfl, rfl, quotable⟩ := ih last found
      refine ⟨c :: inside, behind, rfl, rfl, ?_⟩
      rw [backslash.1]
      cases isEscaped with
      | false => exact quotable
      | true => exact .escaped '\\' inside quotable
  | case3 isEscaped c rest _ closes =>
      cases read
      rw [closes.1, closes.2]
      exact ⟨[], rest, rfl, rfl, .nil⟩
  | case4 isEscaped c rest notBackslash notQuote ih =>
      obtain ⟨last, found, rfl⟩ := Option.map_eq_some_iff.mp read
      obtain ⟨inside, behind, rfl, rfl, quotable⟩ := ih last found
      refine ⟨c :: inside, behind, rfl, rfl, ?_⟩
      cases isEscaped with
      | false =>
          exact .plain c inside (fun same => notBackslash ⟨same, escapes⟩)
            (fun same => notQuote ⟨same, rfl⟩) quotable
      | true => exact .escaped c inside quotable

theorem raw_closes (inside : List Char) (without : '\x60' ∉ inside) : Closes '\x60' inside := by
  intro rest
  induction inside with
  | nil => rfl
  | cons c inside ih =>
      rw [List.mem_cons, not_or] at without
      rw [List.cons_append, quotedLength, if_neg (by simp), if_neg (by simp [Ne.symm without.1]),
        ih without.2]
      rfl

/-- A backslash in front of every backslash and of every quote of this kind. -/
def backslashed (quote : Char) (content : List Char) : List Char :=
  content.flatMap fun c => if c = '\\' ∨ c = quote then ['\\', c] else [c]

theorem backslashed_quotable (quote : Char) (content : List Char) :
    Quotable quote (backslashed quote content) := by
  induction content with
  | nil => exact .nil
  | cons c content ih =>
      rw [backslashed, List.flatMap_cons]
      split
      · exact .escaped c _ ih
      · rename_i plain
        rw [not_or] at plain
        exact .plain c _ plain.1 plain.2 ih

theorem decode_backslashed (quote : Char) (known : (quote, quote) ∈ simpleMarks) (content : List Char) :
    decodeAfter 0 (backslashed quote content) = some content := by
  induction content with
  | nil => rfl
  | cons c content ih =>
      rw [backslashed, List.flatMap_cons, ← backslashed]
      split
      · rename_i special
        have escaped : (c, c) ∈ simpleMarks := by
          rcases special with rfl | rfl
          · decide
          · exact known
        rw [List.cons_append, List.singleton_append, decode_simple c c _ escaped, ih]
        rfl
      · rename_i plain
        rw [not_or] at plain
        rw [List.singleton_append, decode_plain c _ plain.1, ih]
        rfl

theorem parse_literal (kind : TokenKind) (quote : Char) (opens : (kind, quote) ∈ quotations)
    (inside : List Char) (closes : Closes quote inside) :
    parse (enclosed quote inside) =
      match stringValue kind (enclosed quote inside).toList with
      | .ok content => .ok (.literal (.string content))
      | .error fault => .error (faultAt fault (enclosed quote inside).toList) := by
  have lexed := lex_literal_alone kind quote opens inside closes
  simp only [quotations, List.mem_cons, Prod.mk.injEq, List.not_mem_nil, or_false] at opens
  rcases opens with ⟨rfl, rfl⟩ | ⟨rfl, rfl⟩ | ⟨rfl, rfl⟩ <;>
    exact parse_single _ _ lexed (by simp)

theorem between_enclosed (quote : Char) (inside : List Char) :
    between (enclosed quote inside).toList = inside := by
  simp [between, enclosed]

/-- The literal of a content, by the kind of its quotes. -/
inductive Spells : TokenKind → String → String → Prop where
  | string (content : String) :
      Spells .string content (enclosed '"' (backslashed '"' content.toList))
  | raw (content : String) : '\x60' ∉ content.toList →
      Spells .rawString content (enclosed '\x60' content.toList)
  | character (content : String) : content.length = 1 →
      Spells .character content (enclosed '\'' (backslashed '\'' content.toList))

theorem spelled_value (kind : TokenKind) (content literal : String)
    (spells : Spells kind content literal) :
    ∃ quote inside, (kind, quote) ∈ quotations ∧ literal = enclosed quote inside ∧
      Closes quote inside ∧ stringValue kind literal.toList = .ok content := by
  cases spells with
  | string =>
      have decoded := decode_backslashed '"' (by decide) content.toList
      refine ⟨'"', _, by decide, rfl, ?_, ?_⟩
      · exact quotable_closes '"' (by decide) (by decide) _ (backslashed_quotable '"' _)
      · simp [stringValue, between_enclosed, decoded]
  | raw _ without =>
      refine ⟨'\x60', _, by decide, rfl, raw_closes _ without, ?_⟩
      simp [stringValue, between_enclosed]
  | character _ single =>
      have decoded := decode_backslashed '\'' (by decide) content.toList
      rw [← String.length_toList] at single
      refine ⟨'\'', _, by decide, rfl, ?_, ?_⟩
      · exact quotable_closes '\'' (by decide) (by decide) _ (backslashed_quotable '\'' _)
      · simp [stringValue, between_enclosed, decoded, single]

/-- Every text has a literal that ends at its own quote and denotes the text. -/
theorem spelled_literal_denotes (kind : TokenKind) (content literal : String)
    (spells : Spells kind content literal) :
    (∀ rest : String,
      lex (literal ++ rest) = (lex rest).push ⟨kind, literal, trim rest.toList⟩) ∧
    parse literal = .ok (.literal (.string content)) := by
  obtain ⟨quote, inside, opens, rfl, closes, value⟩ := spelled_value kind content literal spells
  refine ⟨lex_literal kind quote opens inside closes, ?_⟩
  rw [parse_literal kind quote opens inside closes, value]

theorem spelled_literal_denotes_backslashes :
    (∀ rest : String, lex ("\"\\\\\\\"é\"" ++ rest) =
      (lex rest).push ⟨.string, "\"\\\\\\\"é\"", trim rest.toList⟩) ∧
    parse "\"\\\\\\\"é\"" = .ok (.literal (.string "\\\"é")) :=
  spelled_literal_denotes .string "\\\"é" "\"\\\\\\\"é\"" (.string "\\\"é")

/-! The tokens in double quotes. -/

theorem scan_string (first : Char) (rest : List Char) (more : Nat)
    (read : scan first rest = .ok (.string, more)) :
    first = '"' ∧ quotedLength '"' false rest = some more := by
  unfold scan at read
  split at read
  · rename_i opens
    unfold quotedToken at read
    split at read
    · rename_i length found
      cases read
      exact ⟨opens, opens ▸ found⟩
    · cases read
  split at read
  · cases quoted_token_kind _ _ _ _ _ read
  split at read
  · cases quoted_token_kind _ _ _ _ _ read
  split at read
  · have kind := number_kind (first :: rest)
    simp only [Except.ok.injEq, Prod.mk.injEq] at read
    simp [read.1] at kind
  split at read
  · cases read
  split at read <;> cases read

theorem string_token (source : String) (token : Token) (cut : token ∈ (lex source).tokens)
    (kind : token.kind = .string) :
    ∃ inside, token.text = enclosed '"' inside ∧ Quotable '"' inside := by
  obtain ⟨first, rest, more, _, read, text⟩ := lex_cut 0 _ token cut
  rw [kind] at read
  obtain ⟨rfl, length⟩ := scan_string first rest more read
  obtain ⟨inside, behind, rfl, rfl, quotable⟩ :=
    closed_quotable '"' (by decide) false rest more length
  refine ⟨inside, ?_, quotable⟩
  have taken : (inside ++ '"' :: behind).take (inside.length + 1) = inside ++ ['"'] := by
    rw [List.append_cons, List.take_left' (by simp)]
  rw [text, taken, enclosed]

theorem parse_string (inside : List Char) (quotable : Quotable '"' inside) :
    parse (enclosed '"' inside) =
      match decodeAfter 0 inside with
      | none => .error (faultAt .invalidEscape (enclosed '"' inside).toList)
      | some decoded => .ok (.literal (.string (String.ofList decoded))) := by
  have closes := quotable_closes '"' (by decide) (by decide) inside quotable
  rw [parse_literal .string '"' (by decide) inside closes, stringValue, if_neg (by decide),
    between_enclosed]
  cases decodeAfter 0 inside <;> rfl

/-- A token in double quotes is accepted exactly where its inside decodes, and is a syntax error
everywhere else. Escapes with all the digits that their marks ask for are among those accepted. -/
theorem string_token_accepted_iff (source : String) (token : Token)
    (cut : token ∈ (lex source).tokens) (kind : token.kind = .string) :
    ∃ inside, token.text = enclosed '"' inside ∧
      (∀ content : String, parse token.text = .ok (.literal (.string content)) ↔
        Decodes TakenCode inside content.toList) ∧
      ((¬∃ decoded, Decodes TakenCode inside decoded) →
        parse token.text = .error (faultAt .invalidEscape token.text.toList)) ∧
      ∀ content : String, Decodes ExactCode inside content.toList →
        parse token.text = .ok (.literal (.string content)) := by
  obtain ⟨inside, text, quotable⟩ := string_token source token cut kind
  have read := parse_string inside quotable
  have accepted (content : String) : parse token.text = .ok (.literal (.string content)) ↔
      Decodes TakenCode inside content.toList := by
    rw [← decode_iff, text, read]
    cases decodeAfter 0 inside with
    | none => simp
    | some decoded => simp [← String.toList_inj]
  refine ⟨inside, text, accepted, ?_, ?_⟩
  · intro refused
    have none : decodeAfter 0 inside = none := by
      rw [Option.eq_none_iff_forall_ne_some]
      exact fun decoded some => refused ⟨decoded, (decode_iff inside decoded).mp some⟩
    rw [text, read, none]
  · exact fun content decodes => (accepted content).mpr (decodes.imp exact_taken)

theorem string_token_accepted_iff_accent :
    ∃ token ∈ (lex "\"\\u00e9\" + x").tokens, token.kind = .string ∧
    ∃ inside, token.text = enclosed '"' inside ∧
      (∀ content : String, parse token.text = .ok (.literal (.string content)) ↔
        Decodes TakenCode inside content.toList) ∧
      ((¬∃ decoded, Decodes TakenCode inside decoded) →
        parse token.text = .error (faultAt .invalidEscape token.text.toList)) ∧
      ∀ content : String, Decodes ExactCode inside content.toList →
        parse token.text = .ok (.literal (.string content)) := by
  refine ⟨⟨.string, "\"\\u00e9\"", "+ x".toList⟩, List.mem_cons_self, rfl, ?_⟩
  exact string_token_accepted_iff "\"\\u00e9\" + x" _ List.mem_cons_self rfl

theorem exact_code_digits (mark : Char) (length : Nat) (known : (mark, length) ∈ codeMarks)
    (body decoded : List Char) (decodes : Decodes ExactCode ('\\' :: mark :: body) decoded) :
    length ≤ body.length ∧ ∃ c, DenotesCode (body.take length) c := by
  generalize whole : '\\' :: mark :: body = text at decodes
  cases decodes with
  | nil => cases whole
  | plain c rest decoded other => exact absurd (List.cons.inj whole).1.symm other
  | simple mark c rest decoded simple =>
      cases whole
      have asks := (code_length_iff mark length).mpr known
      rw [simple_mark_no_code mark c simple] at asks
      cases asks
  | code mark length written rest c decoded found form =>
      cases whole
      have same := ((code_length_iff mark _).mpr known).symm.trans ((code_length_iff mark _).mpr found)
      cases same
      rw [← form.1, List.take_left]
      exact ⟨by simp, c, form.2⟩

/-- Accepted too: a code point that the end of the literal cuts off, and one with a sign in place of
its first digit. -/
theorem short_code_accepted :
    (lex "\"\\x4\"" = ⟨[⟨.string, "\"\\x4\"", []⟩], none⟩ ∧
      parse "\"\\x4\"" = .ok (.literal (.string "\x04")) ∧
      ¬∃ decoded, Decodes ExactCode ['\\', 'x', '4'] decoded) ∧
    (lex "\"\\x+1\"" = ⟨[⟨.string, "\"\\x+1\"", []⟩], none⟩ ∧
      parse "\"\\x+1\"" = .ok (.literal (.string "\x01")) ∧
      ¬∃ decoded, Decodes ExactCode ['\\', 'x', '+', '1'] decoded) := by
  refine ⟨⟨by rfl, by rfl, ?_⟩, by rfl, by rfl, ?_⟩
  · rintro ⟨decoded, decodes⟩
    have digits := exact_code_digits 'x' 2 (by decide) ['4'] decoded decodes
    exact absurd digits.1 (by decide)
  · rintro ⟨decoded, decodes⟩
    obtain ⟨_, c, code⟩ := exact_code_digits 'x' 2 (by decide) ['+', '1'] decoded decodes
    have none : readNumeral 16 ['+', '1'] = none := by decide
    have read := (row_code_iff _ c).mpr code
    simp [none] at read

end MarkupTemplate.Expr
