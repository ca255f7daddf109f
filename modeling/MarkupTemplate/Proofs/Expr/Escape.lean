import MarkupTemplate.Expr.Literal
import MarkupTemplate.Proofs.Text.DigitRow
import Mathlib.Tactic.SplitIfs

/-!
Escapes in quoted literals. A backslash stands in front of a mark; some marks stand for one
character each, and three of them are followed by the digits of a code point. What is written for
those digits is a parameter here, because more is taken than the marks ask for. Main statement: a
text is decoded exactly where it is a row of plain characters and escapes, each code point with the
digits that the mark asks for, but for a plus sign in place of the first digit and for digits that
the end of the literal cuts off.
-/

namespace MarkupTemplate.Expr

/-- The marks of code points, and how many digits each asks for. -/
def codeMarks : List (Char × Nat) := [('x', 2), ('u', 4), ('U', 8)]

/-- The marks that stand for one character each. -/
def simpleMarks : List (Char × Char) :=
  [('n', '\n'), ('t', '\t'), ('r', '\r'), ('a', '\x07'), ('b', '\x08'), ('f', '\x0C'),
   ('v', '\x0B'), ('0', '\x00'), ('\\', '\\'), ('"', '"'), ('\'', '\'')]

/-- What may be written for the code point of a character, behind a mark that asks for so many
digits and in front of the rest of the literal. -/
abbrev CodeForm := Nat → List Char → List Char → Char → Prop

/-- The digits denote the code point of the character. -/
def DenotesCode (row : List Char) (c : Char) : Prop :=
  ∃ digits, digits ≠ [] ∧ WritesDigits 16 row digits ∧ c.toNat = positional 16 digits

/-- As many hexadecimal digits as the mark asks for. -/
def ExactCode : CodeForm := fun length written _ c =>
  written.length = length ∧ DenotesCode written c

/-- A plus sign may stand for the first digit, and the end of the literal for the last ones. -/
def TakenCode : CodeForm := fun length written behind c =>
  (written.length = length ∨ written.length < length ∧ behind = []) ∧
    ∃ sign ∈ [[], ['+']], ∃ row, written = sign ++ row ∧ DenotesCode row c

/-- The text that the inside of a literal stands for, each escape in turn. -/
inductive Decodes (form : CodeForm) : List Char → List Char → Prop where
  | nil : Decodes form [] []
  | plain (c : Char) (rest decoded : List Char) : c ≠ '\\' → Decodes form rest decoded →
      Decodes form (c :: rest) (c :: decoded)
  | simple (mark c : Char) (rest decoded : List Char) : (mark, c) ∈ simpleMarks →
      Decodes form rest decoded → Decodes form ('\\' :: mark :: rest) (c :: decoded)
  | code (mark : Char) (length : Nat) (written rest : List Char) (c : Char) (decoded : List Char) :
      (mark, length) ∈ codeMarks → form length written rest c → Decodes form rest decoded →
      Decodes form ('\\' :: mark :: (written ++ rest)) (c :: decoded)

theorem code_length_iff (mark : Char) (length : Nat) :
    codeLength mark = some length ↔ (mark, length) ∈ codeMarks := by
  unfold codeLength
  split_ifs <;> simp_all [codeMarks, eq_comm]

theorem simple_escape_iff (mark c : Char) :
    simpleEscape mark = some c ↔ (mark, c) ∈ simpleMarks := by
  unfold simpleEscape
  split <;> simp_all [simpleMarks, eq_comm]

theorem simple_mark_no_code (mark c : Char) (simple : (mark, c) ∈ simpleMarks) :
    codeLength mark = none := by
  have none : ∀ entry ∈ simpleMarks, codeLength entry.1 = none := by decide
  exact none (mark, c) simple

theorem code_of_valid (code : Nat) (valid : code.isValidChar) : (Char.ofNat code).toNat = code := by
  rw [Char.ofNat, dif_pos valid]
  rfl

theorem row_code_iff (row : List Char) (c : Char) :
    ((readNumeral 16 row).filter fun code => decide code.isValidChar).map Char.ofNat = some c ↔
      DenotesCode row c := by
  simp only [Option.map_eq_some_iff, Option.filter_eq_some_iff, decide_eq_true_eq,
    read_numeral_iff 16 (Nat.le_refl 16)]
  constructor
  · rintro ⟨code, ⟨⟨digits, some, row, rfl⟩, valid⟩, rfl⟩
    exact ⟨digits, some, row, code_of_valid _ valid⟩
  · rintro ⟨digits, some, row, code⟩
    exact ⟨c.toNat, ⟨⟨digits, some, row, code.symm⟩, c.valid⟩, Char.ofNat_toNat c⟩

theorem code_value_iff (written : List Char) (c : Char) :
    codeValue written = some c ↔
      ∃ sign ∈ [[], ['+']], ∃ row, written = sign ++ row ∧ DenotesCode row c := by
  unfold codeValue
  split
  · rename_i rest
    rw [row_code_iff]
    constructor
    · exact fun code => ⟨['+'], by simp, rest, rfl, code⟩
    · rintro ⟨sign, known, row, same, code⟩
      simp only [List.mem_cons, List.not_mem_nil, or_false] at known
      rcases known with rfl | rfl
      · obtain ⟨digits, _, written, _⟩ := code
        rw [List.nil_append] at same
        subst same
        cases written with
        | cons plus _ =>
            have found := (digit_in_iff 16 (Nat.le_refl 16) '+' _).mpr plus
            cases found
      · cases same
        exact code
  · rename_i unsigned
    rw [row_code_iff]
    constructor
    · exact fun code => ⟨[], by simp, written, rfl, code⟩
    · rintro ⟨sign, known, row, rfl, code⟩
      simp only [List.mem_cons, List.not_mem_nil, or_false] at known
      rcases known with rfl | rfl
      · exact code
      · exact (unsigned row rfl).elim

theorem decode_skipped (skip : Nat) (text : List Char) :
    decodeAfter skip text = decodeAfter 0 (text.drop skip) := by
  induction skip generalizing text with
  | zero => rfl
  | succ skip ih =>
      cases text with
      | nil => rfl
      | cons c rest => exact ih rest

theorem decode_plain (c : Char) (rest : List Char) (plain : c ≠ '\\') :
    decodeAfter 0 (c :: rest) = (decodeAfter 0 rest).map (c :: ·) := by
  simp [decodeAfter, plain]

theorem decode_simple (mark c : Char) (rest : List Char) (simple : (mark, c) ∈ simpleMarks) :
    decodeAfter 0 ('\\' :: mark :: rest) = (decodeAfter 0 rest).map (c :: ·) := by
  have noCode := simple_mark_no_code mark c simple
  have escape := (simple_escape_iff mark c).mpr simple
  cases read : decodeAfter 0 rest <;> simp [decodeAfter, noCode, escape, read]

theorem decode_code (mark : Char) (length : Nat) (body : List Char)
    (known : (mark, length) ∈ codeMarks) :
    decodeAfter 0 ('\\' :: mark :: body) = (codeValue (body.take length)).bind fun c =>
      (decodeAfter 0 (body.drop length)).map (c :: ·) := by
  have asks := (code_length_iff mark length).mpr known
  have skipped : decodeAfter (1 + length) (mark :: body) = decodeAfter 0 (body.drop length) := by
    rw [decode_skipped, Nat.add_comm, List.drop_succ_cons]
  cases value : codeValue (body.take length) <;> cases read : decodeAfter 0 (body.drop length) <;>
    simp [decodeAfter, asks, skipped, value, read]

theorem taken_split (length : Nat) (written behind : List Char)
    (size : written.length = length ∨ written.length < length ∧ behind = []) :
    (written ++ behind).take length = written ∧ (written ++ behind).drop length = behind := by
  rcases size with rfl | ⟨short, rfl⟩
  · exact ⟨List.take_left, List.drop_left⟩
  · rw [List.append_nil]
    exact ⟨List.take_of_length_le (Nat.le_of_lt short), List.drop_of_length_le (Nat.le_of_lt short)⟩

theorem taken_size (length : Nat) (body : List Char) :
    (body.take length).length = length ∨
      (body.take length).length < length ∧ body.drop length = [] := by
  rw [List.length_take, List.drop_eq_nil_iff]
  omega

theorem decode_complete (inside decoded : List Char) (decodes : Decodes TakenCode inside decoded) :
    decodeAfter 0 inside = some decoded := by
  induction decodes with
  | nil => rfl
  | plain c rest decoded plain _ ih => rw [decode_plain c rest plain, ih]; rfl
  | simple mark c rest decoded simple _ ih => rw [decode_simple mark c rest simple, ih]; rfl
  | code mark length written rest c decoded known form _ ih =>
      obtain ⟨first, behind⟩ := taken_split length written rest form.1
      have value := (code_value_iff written c).mpr form.2
      rw [decode_code mark length _ known, first, behind, value, ih]
      rfl

-- What is skipped belongs to the escape before, which the decoder has dealt with already.
theorem decode_sound (skip : Nat) (text decoded : List Char)
    (read : decodeAfter skip text = some decoded) : Decodes TakenCode (text.drop skip) decoded := by
  fun_induction decodeAfter skip text generalizing decoded with
  | case1 skip =>
      cases read
      rw [List.drop_nil]
      exact .nil
  | case2 skip c rest ih => exact ih decoded read
  | case3 => cases read
  | case4 mark body length asks ih =>
      obtain ⟨c, value, read⟩ := Option.bind_eq_some_iff.mp read
      obtain ⟨tail, behind, same⟩ := Option.bind_eq_some_iff.mp read
      cases same
      have decodes := ih tail behind
      rw [Nat.add_comm, List.drop_succ_cons] at decodes
      have form : TakenCode length (body.take length) (body.drop length) c :=
        ⟨taken_size length body, (code_value_iff _ c).mp value⟩
      have whole := Decodes.code mark length _ _ c tail ((code_length_iff mark length).mp asks) form
        decodes
      rwa [List.take_append_drop] at whole
  | case5 mark body _ ih =>
      obtain ⟨c, escape, read⟩ := Option.bind_eq_some_iff.mp read
      obtain ⟨tail, behind, same⟩ := Option.bind_eq_some_iff.mp read
      cases same
      exact .simple mark c body tail ((simple_escape_iff mark c).mp escape) (ih tail behind)
  | case6 c rest plain ih =>
      obtain ⟨tail, behind, rfl⟩ := Option.map_eq_some_iff.mp read
      exact .plain c rest tail plain (ih tail behind)

/-- What decoding takes for an escape, and the text that it gives. -/
theorem decode_iff (inside decoded : List Char) :
    decodeAfter 0 inside = some decoded ↔ Decodes TakenCode inside decoded :=
  ⟨decode_sound 0 inside decoded, decode_complete inside decoded⟩

theorem exact_taken (length : Nat) (written behind : List Char) (c : Char)
    (form : ExactCode length written behind c) : TakenCode length written behind c :=
  ⟨Or.inl form.1, [], List.mem_cons_self, written, rfl, form.2⟩

theorem Decodes.imp {form other : CodeForm} {inside decoded : List Char}
    (weaker : ∀ length written behind c, form length written behind c →
      other length written behind c)
    (decodes : Decodes form inside decoded) : Decodes other inside decoded := by
  induction decodes with
  | nil => exact .nil
  | plain c rest decoded plain _ ih => exact .plain c rest decoded plain ih
  | simple mark c rest decoded simple _ ih => exact .simple mark c rest decoded simple ih
  | code mark length written rest c decoded known form _ ih =>
      exact .code mark length written rest c decoded known (weaker length written rest c form) ih

end MarkupTemplate.Expr
