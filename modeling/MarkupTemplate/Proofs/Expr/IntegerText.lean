import Mathlib.Data.List.TakeWhile
import MarkupTemplate.Proofs.Expr.Operands
import MarkupTemplate.Proofs.Text.DigitRow
import MarkupTemplate.Proofs.Text.Integer

/-!
Integer literals. The tokenizer finds the end of a literal on the text as it stands, while its value
is read after the underscores are taken out; the mark of the base is looked for both times. Main
statement: a text of digits in a base, wherever its underscores stand, is the integer
that the digits denote, or a syntax error where that integer is too large or there is no digit.
-/

namespace MarkupTemplate.Expr

/-- The marks of the bases other than ten. -/
def baseMarks : List (Char × Nat) :=
  [('x', 16), ('X', 16), ('o', 8), ('O', 8), ('b', 2), ('B', 2)]

/-- A text of digits in a base, with underscores anywhere among them. Without a mark the base is
ten, and the text starts with a digit. -/
inductive IntegerText : List Char → Nat → List Nat → Prop where
  | decimal (first : Char) (rest : List Char) (digits : List Nat) : first ≠ '_' →
      WritesDigits 10 ((first :: rest).filter (· ≠ '_')) digits →
      IntegerText (first :: rest) 10 digits
  | marked (mark : Char) (base : Nat) (body : List Char) (digits : List Nat) :
      (mark, base) ∈ baseMarks → WritesDigits base (body.filter (· ≠ '_')) digits →
      IntegerText ('0' :: mark :: body) base digits

theorem base_of_iff (mark : Char) (base : Nat) :
    baseOf mark = some base ↔ (mark, base) ∈ baseMarks := by
  unfold baseOf
  grind [baseMarks]

theorem base_mark (mark : Char) (base : Nat) (known : (mark, base) ∈ baseMarks) :
    base ≤ 16 ∧ isBlank mark = false ∧ mark ≠ '_' := by
  have all : ∀ entry ∈ baseMarks, entry.2 ≤ 16 ∧ isBlank entry.1 = false ∧ entry.1 ≠ '_' := by
    decide
  exact all (mark, base) known

theorem digit_dark (base : Nat) (few : base ≤ 16) (c : Char) (digit : isDigitIn base c = true) :
    isBlank c = false := by
  have dark : ∀ digit < 16, isBlank (Nat.digitChar digit) = false ∧
      isBlank (Nat.digitChar digit).toUpper = false := by decide
  obtain ⟨digit, found⟩ := Option.isSome_iff_exists.mp digit
  obtain ⟨below, same⟩ := (digit_in_iff base few c digit).mp found
  have known := dark digit (by omega)
  rcases same with rfl | rfl
  · exact known.1
  · exact known.2

section

variable (base : Nat) (few : base ≤ 16) (body : List Char) (digits : List Nat)
  (written : WritesDigits base (body.filter (· ≠ '_')) digits)

include few written

theorem body_chars : ∀ c ∈ body, isDigitIn base c = true ∨ c = '_' := by
  intro c member
  have all := (all_digits_iff base few _).mpr ⟨digits, written⟩
  by_cases underscore : c = '_'
  · exact Or.inr underscore
  · exact Or.inl (List.all_eq_true.mp all c (by simp [member, underscore]))

theorem body_dark : ∀ c ∈ body, isBlank c = false := by
  intro c member
  rcases body_chars base few body digits written c member with digit | rfl
  · exact digit_dark base few c digit
  · decide

theorem body_length : digitsLength base body = body.length := by
  have parts : body.all (fun c => isDigitIn base c || c == '_') = true := by
    rw [List.all_eq_true]
    intro c member
    simpa using body_chars base few body digits written c member
  rw [digitsLength, List.takeWhile_eq_self_iff.mpr (List.all_eq_true.mp parts)]

end

-- No mark is a digit or an underscore, so a text without a mark is not taken for one with a mark.
theorem decimal_no_mark (c : Char) (part : isDigitIn 10 c = true ∨ c = '_') : baseOf c = none := by
  have other : ∀ entry ∈ baseMarks, ¬(isDigitIn 10 entry.1 = true ∨ entry.1 = '_') := by decide
  rw [Option.eq_none_iff_forall_not_mem]
  intro base found
  exact other (c, base) ((base_of_iff c base).mp found) part

theorem decimal_length (text : List Char) (digits : List Nat)
    (written : WritesDigits 10 (text.filter (· ≠ '_')) digits) :
    numberLength text = (.integer, text.length) := by
  have plain : decimalLength text = (.integer, text.length) := by
    simp [decimalLength, body_length 10 (by decide) text digits written, fractionLength,
      exponentLength]
  unfold numberLength
  split
  · rename_i mark rest
    have part := body_chars 10 (by decide) _ digits written mark (by simp)
    rw [decimal_no_mark mark part]
    exact plain
  · exact plain

theorem marked_length (mark : Char) (base : Nat) (body : List Char) (digits : List Nat)
    (known : (mark, base) ∈ baseMarks)
    (written : WritesDigits base (body.filter (· ≠ '_')) digits) :
    numberLength ('0' :: mark :: body) = (.integer, ('0' :: mark :: body).length) := by
  have found := (base_of_iff mark base).mpr known
  have length := body_length base (base_mark mark base known).1 body digits written
  have size : 2 + body.length = ('0' :: mark :: body).length := Nat.add_comm 2 body.length
  simp only [numberLength, found, length, size]

theorem numeral_of_decimal (text : List Char)
    (parts : ∀ c ∈ text, isDigitIn 10 c = true ∨ c = '_') : numeralOf text = readNumeral 10 text := by
  unfold numeralOf
  split
  · rename_i mark rest
    rw [decimal_no_mark mark (parts mark (by simp))]
  · rfl

theorem integer_text_numeral (text : List Char) (base : Nat) (digits : List Nat)
    (written : IntegerText text base digits) :
    numeralOf (withoutUnderscores text) =
      if digits = [] then none else some (positional base digits) := by
  cases written with
  | decimal first rest _ _ row =>
      have parts : ∀ c ∈ withoutUnderscores (first :: rest), isDigitIn 10 c = true ∨ c = '_' :=
        fun c member => body_chars 10 (by decide) (first :: rest) digits row c
          (List.mem_of_mem_filter member)
      rw [numeral_of_decimal _ parts]
      exact read_row 10 (by decide) _ digits row
  | marked mark _ body _ known row =>
      obtain ⟨few, _, kept⟩ := base_mark mark base known
      have found := (base_of_iff mark base).mpr known
      have stripped : withoutUnderscores ('0' :: mark :: body) =
          '0' :: mark :: body.filter (· ≠ '_') := by
        simp [withoutUnderscores, kept]
      rw [stripped, numeralOf, found]
      exact read_row base few _ digits row

theorem scan_digit (first : Char) (rest : List Char) (digit : first.isDigit = true) :
    scan first rest =
      .ok ((numberLength (first :: rest)).1, (numberLength (first :: rest)).2 - 1) := by
  have notQuote : first ≠ '"' ∧ first ≠ '\x60' ∧ first ≠ '\'' := by
    refine ⟨?_, ?_, ?_⟩ <;>
      · rintro rfl
        revert digit
        decide
  rw [scan, if_neg notQuote.1, if_neg notQuote.2.1, if_neg notQuote.2.2, if_pos (by simp [digit])]

theorem integer_text_scanned (text : List Char) (base : Nat) (digits : List Nat)
    (written : IntegerText text base digits) : ∃ first rest, text = first :: rest ∧
      scan first rest = .ok (.integer, rest.length) ∧ ∀ c ∈ text, isBlank c = false := by
  cases written with
  | decimal first rest _ starts row =>
      have parts := body_chars 10 (by decide) (first :: rest) digits row
      have digit : first.isDigit = true := by
        rw [← digit_in_ten]
        exact (parts first List.mem_cons_self).resolve_right starts
      refine ⟨first, rest, rfl, ?_, body_dark 10 (by decide) (first :: rest) digits row⟩
      rw [scan_digit first rest digit, decimal_length (first :: rest) digits row]
      rfl
  | marked mark _ body _ known row =>
      obtain ⟨few, markDark, _⟩ := base_mark mark base known
      refine ⟨'0', mark :: body, rfl, ?_, ?_⟩
      · rw [scan_digit '0' (mark :: body) rfl, marked_length mark base body digits known row]
        rfl
      · have dark := body_dark base few body digits row
        intro c member
        simp only [List.mem_cons] at member
        rcases member with rfl | rfl | inside
        · decide
        · exact markDark
        · exact dark c inside

theorem lex_integer (text : String) (base : Nat) (digits : List Nat)
    (written : IntegerText text.toList base digits) :
    lex text = ⟨[⟨.integer, text, []⟩], none⟩ := by
  obtain ⟨first, rest, chars, read, dark⟩ := integer_text_scanned text.toList base digits written
  rw [chars] at dark
  have whole := lex_token first rest [] .integer (dark first List.mem_cons_self)
    (by rwa [List.append_nil])
  rw [List.append_nil, ← chars, String.ofList_toList] at whole
  rw [lex, chars, trim_dark _ dark, ← chars, whole]
  rfl

theorem int64_of_natural (number : Nat) (fits : number < 2 ^ 63) :
    (Int64.ofInt (Int.ofNat number)).toInt = number := by
  apply Int64.toInt_ofInt_of_le
  · exact Int.le_trans (by decide) (Int.natCast_nonneg number)
  · exact Int.ofNat_lt.mpr fits

theorem integer_value (text : List Char) (number : Nat)
    (read : numeralOf (withoutUnderscores text) = some number) :
    integerValue text = if number < 2 ^ 63 then some (Int64.ofInt (Int.ofNat number)) else none := by
  rw [integerValue, read]
  split <;> rename_i size
  · rw [Option.filter_some_pos (by simpa using size)]
    rfl
  · rw [Option.filter_some_neg (by simpa using size)]
    rfl

/-- A text of digits is read as the integer that they denote, as far as integers go. -/
theorem integer_literal_value (text : String) (base : Nat) (digits : List Nat)
    (written : IntegerText text.toList base digits) :
    (digits ≠ [] → (positional base digits : Int) ≤ Int64.maxValue.toInt →
        ∃ number : Int64, number.toInt = positional base digits ∧
          parse text = .ok (.literal (.int number))) ∧
      (digits = [] ∨ Int64.maxValue.toInt < positional base digits →
        parse text = .error (faultAt .invalidInteger text.toList)) := by
  have single := parse_single text _ (lex_integer text base digits written) (by simp)
  have read := integer_text_numeral text.toList base digits written
  have greatest : Int64.maxValue.toInt = 2 ^ 63 - 1 := rfl
  constructor
  · intro some fits
    have below : positional base digits < 2 ^ 63 := by omega
    rw [if_neg some] at read
    have value := integer_value _ _ read
    rw [if_pos below] at value
    exact ⟨_, int64_of_natural _ below, by simp [single, ofToken, value]⟩
  · intro refused
    have value : integerValue text.toList = none := by
      by_cases nothing : digits = []
      · rw [if_pos nothing] at read
        rw [integerValue, read]
        rfl
      · have above := refused.resolve_left nothing
        rw [if_neg nothing] at read
        rw [integer_value _ _ read, if_neg (by omega)]
    simp [single, ofToken, value]

theorem integer_literal_value_marked :
    (∃ number : Int64, number.toInt = 9223372036854775807 ∧
      parse "0X_7fFF_FFFF_FFFF_FFFF_" = .ok (.literal (.int number))) ∧
    parse "9_223_372_036_854_775_808" =
      .error (faultAt .invalidInteger "9_223_372_036_854_775_808".toList) := by
  have marked : IntegerText "0X_7fFF_FFFF_FFFF_FFFF_".toList 16 (7 :: List.replicate 15 15) :=
    .marked 'X' 16 "_7fFF_FFFF_FFFF_FFFF_".toList _ (by decide) (by decide)
  have decimal : IntegerText "9_223_372_036_854_775_808".toList 10
      [9, 2, 2, 3, 3, 7, 2, 0, 3, 6, 8, 5, 4, 7, 7, 5, 8, 0, 8] :=
    .decimal '9' "_223_372_036_854_775_808".toList _ (by decide) (by decide)
  constructor
  · exact (integer_literal_value _ 16 _ marked).1 (by decide) (by decide)
  · exact (integer_literal_value _ 10 _ decimal).2 (Or.inr (by decide))

end MarkupTemplate.Expr
