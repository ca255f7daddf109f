import MarkupTemplate.Proofs.Expr.Positions

/-!
Tokens read one after another. A token is read at the start of a text, and the next one at the start
of its tail. Main statement: every text comes to an end in this way or stops at an error, with no
cut inside of a character, and this is what the tokenizer does. The texts of the tokens and the
blanks behind them are the text, as far as it is read.
-/

namespace MarkupTemplate.Expr

/-- The token at the start of a text, if there is one, or the error there. There is no result if the
text cannot be cut at the end of the token. -/
def readToken (text : List Char) : Option (Except Error (Option Token)) :=
  match text with
  | [] => some (.ok none)
  | first :: _ =>
      (tokenEnd first text).bind fun
        | .error fault => some (.error (faultAt fault text))
        | .ok (kind, last) => (cutAt last text).map fun parts =>
            .ok (some ⟨kind, String.ofList parts.1, trimStart parts.2⟩)

/-- What comes of reading tokens one after another, to the end or to the first error. -/
inductive Iterates : List Char → Lexed → Prop where
  | ended (text : List Char) : readToken text = some (.ok none) → Iterates text ⟨[], none⟩
  | failed (text : List Char) (error : Error) : readToken text = some (.error error) →
      Iterates text ⟨[], some error⟩
  | token (text : List Char) (token : Token) (lexed : Lexed) :
      readToken text = some (.ok (some token)) → Iterates token.tail lexed →
      Iterates text (lexed.push token)

/-- A token at the start of a text, and the blanks between it and its tail. -/
structure CutOff (text : List Char) (token : Token) (blanks : List Char) : Prop where
  filled : token.text ≠ ""
  whole : text = token.text.toList ++ (blanks ++ token.tail)
  blank : ∀ c ∈ blanks, isBlank c = true
  trimmed : token.tail = trimStart (blanks ++ token.tail)
  shorter : token.tail.length < text.length

/-- Tokens cut off a text one after another, each with the blanks behind it, and what is left. -/
inductive Pieces : List Char → List (Token × List Char) → List Char → Prop where
  | nil (text : List Char) : Pieces text [] text
  | cons (text : List Char) (token : Token) (blanks : List Char)
      (pieces : List (Token × List Char)) (left : List Char) : CutOff text token blanks →
      Pieces token.tail pieces left → Pieces text ((token, blanks) :: pieces) left

/-- The texts of tokens, each with the blanks behind it. -/
def joined (pieces : List (Token × List Char)) : List Char :=
  pieces.flatMap fun piece => piece.1.text.toList ++ piece.2

theorem read_token (first : Char) (rest : List Char) : readToken (first :: rest) =
    match scan first rest with
    | .error fault => some (.error (faultAt fault (first :: rest)))
    | .ok (kind, more) => some (.ok (some
        ⟨kind, String.ofList (first :: rest.take more), trimStart (rest.drop more)⟩)) := by
  rw [readToken, token_end, Option.bind_some]
  cases scan first rest with
  | error fault => rfl
  | ok found =>
      have cut := cut_behind (first :: rest.take found.2) (rest.drop found.2)
      rw [List.cons_append, List.take_append_drop] at cut
      exact congrArg (Option.map _) cut

theorem read_cut_off (text : List Char) (token : Token)
    (read : readToken text = some (.ok (some token))) : ∃ blanks, CutOff text token blanks := by
  cases text with
  | nil => cases read
  | cons first rest =>
      rw [read_token] at read
      cases scanned : scan first rest with
      | error fault => rw [scanned] at read; cases read
      | ok found =>
          rw [scanned] at read
          cases read
          obtain ⟨blanks, split, blank⟩ := trim_start_split (rest.drop found.2)
          refine ⟨blanks, ?_, ?_, blank, ?_, ?_⟩
          · simp
          · rw [String.toList_ofList, ← split, List.cons_append, List.take_append_drop]
          · rw [← split]
          · have few := List.length_dropWhile_le isBlank (rest.drop found.2)
            rw [List.length_drop] at few
            exact Nat.lt_succ_of_le (few.trans (Nat.sub_le _ _))

theorem read_ended (text : List Char) (read : readToken text = some (.ok none)) : text = [] := by
  cases text with
  | nil => rfl
  | cons first rest =>
      rw [read_token] at read
      cases scanned : scan first rest <;> rw [scanned] at read <;> cases read

theorem iterates_pieces (text : List Char) (lexed : Lexed) (iterates : Iterates text lexed) :
    ∃ pieces left, pieces.map Prod.fst = lexed.tokens ∧ Pieces text pieces left ∧
      (lexed.failure = none ↔ left = []) := by
  induction iterates with
  | ended text read => exact ⟨[], text, rfl, .nil text, iff_of_true rfl (read_ended text read)⟩
  | failed text error read =>
      refine ⟨[], text, rfl, .nil text, iff_of_false nofun ?_⟩
      rintro rfl
      cases read
  | token text token lexed read _ ih =>
      obtain ⟨pieces, left, same, behind, ends⟩ := ih
      obtain ⟨blanks, cut⟩ := read_cut_off text token read
      exact ⟨(token, blanks) :: pieces, left, congrArg (token :: ·) same,
        .cons text token blanks pieces left cut behind, ends⟩

theorem pieces_joined (text left : List Char) (pieces : List (Token × List Char))
    (cut : Pieces text pieces left) : text = joined pieces ++ left := by
  induction cut with
  | nil text => rfl
  | cons text token blanks pieces left cut _ ih =>
      rw [cut.whole, joined, List.flatMap_cons, ← joined, List.append_assoc, List.append_assoc,
        ← ih]

/-- The tokenizer goes on in the tail of each token. -/
theorem lex_iterates (text : List Char) (dark : ∀ c ∈ text.head?, isBlank c = false) :
    Iterates text (lexAfter 0 text) := by
  induction size : text.length using Nat.strong_induction_on generalizing text with
  | _ total ih =>
      cases text with
      | nil => exact .ended [] rfl
      | cons first rest =>
          have read := read_token first rest
          rw [lexAfter, if_neg (by simp [dark first rfl])]
          cases scanned : scan first rest with
          | error fault =>
              rw [scanned] at read
              exact .failed _ _ read
          | ok found =>
              rw [scanned] at read
              obtain ⟨_, cut⟩ := read_cut_off _ _ read
              have shorter := cut.shorter
              have behind := ih _ (size ▸ shorter) _ (trim_start_dark _) rfl
              have tail : lexAfter found.2 rest = lexAfter 0 (trimStart (rest.drop found.2)) := by
                rw [lex_trim_start, lex_drop]
              exact .token _ _ _ read (tail ▸ behind)

/-- Reading the tokens of a text one after another is what the tokenizer does, and comes to an end.
Each token is a piece at the start of what is left, and its tail is shorter. The tokens and the
blanks between them are the trimmed text, up to the first error if there is one. -/
theorem lex_lossless (source : String) :
    Iterates (trim source.toList) (lex source) ∧
      ∃ pieces left, pieces.map Prod.fst = (lex source).tokens ∧
        Pieces (trim source.toList) pieces left ∧
        trim source.toList = joined pieces ++ left ∧ ((lex source).failure = none ↔ left = []) := by
  have dark : ∀ c ∈ (trim source.toList).head?, isBlank c = false := by
    rw [← trim_start_end]
    exact trim_start_dark _
  have iterates := lex_iterates _ dark
  obtain ⟨pieces, left, same, cut, ends⟩ := iterates_pieces _ _ iterates
  exact ⟨iterates, pieces, left, same, cut, pieces_joined _ left pieces cut, ends⟩

end MarkupTemplate.Expr
