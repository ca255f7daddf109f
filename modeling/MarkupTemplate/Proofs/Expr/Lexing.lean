import MarkupTemplate.Proofs.Expr.Identifier

/-!
What the tokenizer cuts out of a text. Every token is the piece that one scan takes
at some place, so its kind says what its text looks like. Where no blank stands between
them, tokens without a failure behind them make up the whole text.
-/

namespace MarkupTemplate.Expr

def quotes : List Char := ['"', '\x60', '\'']

/-- What a scan finds, by the first character of the token. -/
inductive Scans (first : Char) (rest : List Char) : TokenKind → Nat → Prop where
  | quoted (kind : TokenKind) (more : Nat) : first ∈ quotes →
      kind ∈ [.string, .rawString, .character] → Scans first rest kind more
  | number (kind : TokenKind) (more : Nat) : first.isDigit = true ∨ first = '.' →
      kind ∈ [.integer, .float] → Scans first rest kind more
  | identifier : isIdentifierStart first = true →
      Scans first rest .identifier (rest.takeWhile isIdentifierPart).length
  | symbol (symbol : String) : symbol ∈ symbols → symbol.toList <+: first :: rest →
      Scans first rest .symbol (symbol.length - 1)

theorem quoted_token_kind (kind found : TokenKind) (quote : Char) (rest : List Char) (more : Nat)
    (read : quotedToken kind quote rest = .ok (found, more)) : found = kind := by
  unfold quotedToken at read
  split at read <;> cases read
  rfl

theorem quoted_scans (kind found : TokenKind) (quote first : Char) (rest : List Char) (more : Nat)
    (opens : first ∈ quotes) (known : kind ∈ [.string, .rawString, .character])
    (read : quotedToken kind quote rest = .ok (found, more)) : Scans first rest found more := by
  rw [← quoted_token_kind kind found quote rest more read] at known
  exact .quoted found more opens known

theorem decimal_kind (text : List Char) : (decimalLength text).1 ∈ [.integer, .float] := by
  unfold decimalLength
  dsimp only
  split <;> simp

theorem number_kind (text : List Char) : (numberLength text).1 ∈ [.integer, .float] := by
  unfold numberLength
  split
  · split
    · simp
    · exact decimal_kind _
  · exact decimal_kind _

theorem scan_scans (first : Char) (rest : List Char) (kind : TokenKind) (more : Nat)
    (read : scan first rest = .ok (kind, more)) : Scans first rest kind more := by
  unfold scan at read
  split at read
  · rename_i quote
    exact quoted_scans _ kind _ first rest more (by simp [quotes, quote]) (by decide) read
  split at read
  · rename_i quote
    exact quoted_scans _ kind _ first rest more (by simp [quotes, quote]) (by decide) read
  split at read
  · rename_i quote
    exact quoted_scans _ kind _ first rest more (by simp [quotes, quote]) (by decide) read
  split at read
  · rename_i digit
    cases read
    refine .number _ _ ?_ (number_kind (first :: rest))
    simp only [Bool.or_eq_true, Bool.and_eq_true, beq_iff_eq] at digit
    exact digit.imp_right And.left
  split at read
  · rename_i start
    cases read
    exact .identifier start
  split at read
  · rename_i symbol found
    cases read
    have front := List.find?_some found
    exact .symbol symbol (List.mem_of_find?_eq_some found) (List.isPrefixOf_iff_prefix.mp front)
  · cases read

/-- The token is what a scan takes at some place of the text. -/
def CutIn (text : List Char) (token : Token) : Prop :=
  ∃ first rest more, first :: rest <:+ text ∧ scan first rest = .ok (token.kind, more) ∧
    token.text = String.ofList (first :: rest.take more)

theorem cut_suffix (part text : List Char) (token : Token) (suffix : part <:+ text)
    (cut : CutIn part token) : CutIn text token := by
  obtain ⟨first, rest, more, inside, read, same⟩ := cut
  exact ⟨first, rest, more, inside.trans suffix, read, same⟩

/-- What a scan takes at some place of the text, by the first character of the token. -/
def ScannedIn (text : List Char) (token : Token) : Prop :=
  ∃ first rest more, first :: rest <:+ text ∧ Scans first rest token.kind more ∧
    token.text = String.ofList (first :: rest.take more)

theorem scanned_chars (text : List Char) (token : Token) (scanned : ScannedIn text token) :
    ∀ c ∈ token.text.toList, c ∈ text := by
  obtain ⟨first, rest, more, inside, _, same⟩ := scanned
  intro c member
  rw [same, String.toList_ofList] at member
  refine inside.subset (List.mem_cons.mpr ?_)
  exact (List.mem_cons.mp member).imp_right fun later => List.mem_of_mem_take later

theorem lex_cut (skip : Nat) (text : List Char) :
    ∀ token ∈ (lexAfter skip text).tokens, CutIn text token := by
  fun_induction lexAfter skip text with
  | case1 => simp
  | case2 skip c rest ih =>
      exact fun token member => cut_suffix rest _ token (List.suffix_cons c rest) (ih token member)
  | case3 first rest _ ih =>
      exact fun token member =>
        cut_suffix rest _ token (List.suffix_cons first rest) (ih token member)
  | case4 => simp
  | case5 first rest _ kind more read ih =>
      intro token member
      rcases List.mem_cons.mp member with rfl | member
      · exact ⟨first, rest, more, List.suffix_refl _, read, rfl⟩
      · exact cut_suffix rest _ token (List.suffix_cons first rest) (ih token member)

theorem lex_scanned (skip : Nat) (text : List Char) :
    ∀ token ∈ (lexAfter skip text).tokens, ScannedIn text token := by
  intro token member
  obtain ⟨first, rest, more, inside, read, same⟩ := lex_cut skip text token member
  exact ⟨first, rest, more, inside, scan_scans first rest token.kind more read, same⟩

/-- Without blanks the texts of the tokens are the text, as far as it is not skipped. -/
theorem lex_texts (skip : Nat) (text : List Char) (dark : ∀ c ∈ text, isBlank c = false)
    (clean : (lexAfter skip text).failure = none) :
    (lexAfter skip text).tokens.flatMap (·.text.toList) = text.drop skip := by
  fun_induction lexAfter skip text with
  | case1 => simp
  | case2 skip c rest ih => simpa using ih (fun d member => dark d (List.mem_cons_of_mem c member)) clean
  | case3 first rest blank ih =>
      rw [dark first List.mem_cons_self] at blank
      cases blank
  | case4 => cases clean
  | case5 first rest _ kind more read ih =>
      have behind := ih (fun d member => dark d (List.mem_cons_of_mem first member)) clean
      simp [Lexed.push, behind]

theorem identifier_text (text : List Char) (token : Token) (scanned : ScannedIn text token)
    (kind : token.kind = .identifier) : IsIdentifier token.text.toList := by
  obtain ⟨first, rest, more, _, scans, same⟩ := scanned
  rw [kind] at scans
  rw [same, String.toList_ofList]
  cases scans with
  | quoted _ _ _ other => simp at other
  | number _ _ _ other => simp at other
  | identifier start =>
      refine ⟨start, fun c member => ?_⟩
      have front : rest.take (rest.takeWhile isIdentifierPart).length =
          rest.takeWhile isIdentifierPart :=
        (List.prefix_iff_eq_take.mp (List.takeWhile_prefix isIdentifierPart)).symm
      rw [front] at member
      exact List.all_eq_true.mp List.all_takeWhile c member

theorem symbol_chars (first : Char) (rest : List Char) (symbol : String) (known : symbol ∈ symbols)
    (front : symbol.toList <+: first :: rest) :
    symbol.toList = first :: rest.take (symbol.length - 1) := by
  have filled : ∀ symbol ∈ symbols, symbol.toList ≠ [] := by decide
  obtain ⟨c, more, chars⟩ := List.exists_cons_of_ne_nil (filled symbol known)
  rw [chars, List.cons_prefix_cons] at front
  have length : symbol.length - 1 = more.length := by
    rw [← String.length_toList, chars]
    rfl
  rw [length, ← front.1, ← List.prefix_iff_eq_take.mp front.2, chars]

theorem symbol_text (text : List Char) (token : Token) (scanned : ScannedIn text token)
    (kind : token.kind = .symbol) : token.text ∈ symbols := by
  obtain ⟨first, rest, more, _, scans, same⟩ := scanned
  rw [kind] at scans
  cases scans with
  | quoted _ _ _ other => simp at other
  | number _ _ _ other => simp at other
  | symbol symbol known front =>
      rw [same, ← symbol_chars first rest symbol known front, String.ofList_toList]
      exact known

end MarkupTemplate.Expr
