import MarkupTemplate.Proofs.Expr.IntegerText
import MarkupTemplate.Proofs.Expr.Lexing
import MarkupTemplate.Proofs.Text.Bytes

/-!
The ends of tokens as byte positions. The scanners of this module look for the position at which a
token ends, judge single bytes on the way and cut the text where they go on reading; a cut inside of
a character or behind the end of the text has no result. Main statement: no such cut is made, and
the position is the end of the characters that the tokenizer takes.
-/

namespace MarkupTemplate.Expr

/-- The position behind the closing quote, from a position on. -/
def quotedEnd (quote : Char) : Nat → Bool → List Char → Option Nat
  | _, _, [] => none
  | position, escaped, c :: rest =>
      if c = '\\' ∧ quote ≠ '\x60' then quotedEnd quote (position + c.utf8Size) (!escaped) rest
      else if c = quote ∧ escaped = false then some (position + c.utf8Size)
      else quotedEnd quote (position + c.utf8Size) false rest

def digitsEnd (base : Nat) (text : List Char) (start : Nat) : Option Nat :=
  (cutAt start text).map fun parts =>
    start + byteLength (parts.2.takeWhile fun c => isDigitIn base c || c == '_')

def fractionEnd (text : List Char) (start : Nat) : Option Nat :=
  if (byteAt start text).any (· == '.') && (byteAt (start + 1) text).any Char.isDigit then
    digitsEnd 10 text (start + 1)
  else some start

def isExponentMark (c : Char) : Bool := c == 'e' || c == 'E'

def isSign (c : Char) : Bool := c == '+' || c == '-'

def exponentEnd (text : List Char) (start : Nat) : Option Nat :=
  if (byteAt start text).any isExponentMark then
    let digits := if (byteAt (start + 1) text).any isSign then start + 1 + 1 else start + 1
    if (byteAt digits text).any Char.isDigit then digitsEnd 10 text digits else some start
  else some start

def decimalEnd (text : List Char) : Option (TokenKind × Nat) := do
  let whole ← digitsEnd 10 text 0
  let fraction ← fractionEnd text whole
  let last ← exponentEnd text fraction
  return (if last = whole then .integer else .float, last)

def numberEnd (text : List Char) : Option (TokenKind × Nat) :=
  match if (byteAt 0 text).any (· == '0') then (byteAt 1 text).bind baseOf else none with
  | some base => (digitsEnd base text 2).map fun last => (.integer, last)
  | none => decimalEnd text

def quotedTokenEnd (kind : TokenKind) (quote : Char) (rest : List Char) :
    Except Fault (TokenKind × Nat) :=
  match quotedEnd quote quote.utf8Size false rest with
  | some last => .ok (kind, last)
  | none => .error .unterminatedLiteral

/-- The kind and the end of the token at the start of a text, or the fault there. -/
def tokenEnd (first : Char) (text : List Char) : Option (Except Fault (TokenKind × Nat)) := do
  let parts ← cutAt first.utf8Size text
  if first = '"' then return quotedTokenEnd .string first parts.2
  else if first = '\x60' then return quotedTokenEnd .rawString first parts.2
  else if first = '\'' then return quotedTokenEnd .character first parts.2
  else if first.isDigit || (first == '.' && startsWithDigit parts.2) then
    (numberEnd text).map .ok
  else if isIdentifierStart first then
    return .ok (.identifier, byteLength (text.takeWhile isIdentifierPart))
  else
    match symbols.find? fun symbol => symbol.toList.isPrefixOf text with
    | some symbol => return .ok (.symbol, byteLength symbol.toList)
    | none => return .error (.unexpectedCharacter first)

/-! Single bytes at positions where a character begins. -/

theorem blind_digit (c : Char) (high : 128 ≤ c.toNat) : c.isDigit = false := by
  refine Bool.eq_false_iff.mpr fun digit => ?_
  have code := code_of_isDigit c digit
  omega

theorem blind_exponent (c : Char) (high : 128 ≤ c.toNat) : isExponentMark c = false := by
  rw [isExponentMark, ascii_apart 'e' (by decide) c high, ascii_apart 'E' (by decide) c high]
  rfl

theorem blind_sign (c : Char) (high : 128 ≤ c.toNat) : isSign c = false := by
  rw [isSign, ascii_apart '+' (by decide) c high, ascii_apart '-' (by decide) c high]
  rfl

theorem blind_base (c : Char) (high : 128 ≤ c.toNat) : baseOf c = none := by
  have ascii : ∀ entry ∈ baseMarks, entry.1.toNat < 128 := by decide
  refine Option.eq_none_iff_forall_ne_some.mpr fun base known => ?_
  have low := ascii (c, base) ((base_of_iff c base).mp known)
  exact absurd high (Nat.not_le.mpr low)

theorem digit_byte (front rest : List Char) :
    (byteAt (byteLength front) (front ++ rest)).any Char.isDigit = startsWithDigit rest := by
  rw [any_byte Char.isDigit blind_digit]
  cases rest <;> rfl

/-- An ASCII character moves the position by one. -/
theorem byte_length_behind (front : List Char) (c : Char) (ascii : c.utf8Size = 1) :
    byteLength (front ++ [c]) = byteLength front + 1 := by
  rw [byte_length_append, byte_length_cons, ascii, byte_length_nil]

theorem exponent_mark_iff (c : Char) : isExponentMark c = true ↔ c = 'e' ∨ c = 'E' := by
  simp [isExponentMark]

theorem sign_iff (c : Char) : isSign c = true ↔ c = '+' ∨ c = '-' := by
  simp [isSign]

/-! Behind any part of the text a scanner finds what the one that counts characters finds. -/

theorem digits_taken (base : Nat) (rest : List Char) :
    rest.take (digitsLength base rest) =
      rest.takeWhile fun c => isDigitIn base c || c == '_' :=
  (List.prefix_iff_eq_take.mp (List.takeWhile_prefix _)).symm

theorem digits_end (base : Nat) (front rest : List Char) :
    digitsEnd base (front ++ rest) (byteLength front) =
      some (byteLength (front ++ rest.take (digitsLength base rest))) := by
  rw [digitsEnd, cut_behind, digits_taken, byte_length_append]
  rfl

/-- Digits count behind a mark only if there is at least one. -/
theorem digits_behind (front marks rest : List Char) :
    (if (byteAt (byteLength (front ++ marks)) (front ++ (marks ++ rest))).any Char.isDigit then
        digitsEnd 10 (front ++ (marks ++ rest)) (byteLength (front ++ marks))
      else some (byteLength front)) =
      some (byteLength (front ++ (marks ++ rest).take
        (if startsWithDigit rest then marks.length + digitsLength 10 rest else 0))) := by
  rw [← List.append_assoc, digit_byte, digits_end]
  split
  · rw [List.take_length_add_append, List.append_assoc]
  · rw [List.take_zero, List.append_nil]

theorem fraction_end (front rest : List Char) :
    fractionEnd (front ++ rest) (byteLength front) =
      some (byteLength (front ++ rest.take (fractionLength rest))) := by
  rw [fractionEnd, any_byte (· == '.') (ascii_apart '.' (by decide))]
  cases rest with
  | nil => simp [fractionLength]
  | cons mark rest =>
      by_cases dot : mark = '.'
      · subst dot
        have behind := digits_behind front ['.'] rest
        rw [byte_length_behind front '.' rfl] at behind
        exact behind
      · have nothing : fractionLength (mark :: rest) = 0 := by
          rw [fractionLength]
          rintro more ⟨⟩
          exact dot rfl
        simp [dot, nothing]

theorem unsigned_length (mark : Char) (rest : List Char) (exponent : mark = 'e' ∨ mark = 'E')
    (unsigned : ¬rest.head?.any isSign) : exponentLength (mark :: rest) =
      if startsWithDigit rest then [mark].length + digitsLength 10 rest else 0 := by
  have bare : ¬(rest.head? = some '+' ∨ rest.head? = some '-') := by
    rintro (plus | minus)
    · exact unsigned (by rw [plus]; rfl)
    · exact unsigned (by rw [minus]; rfl)
  simp only [exponentLength, if_pos exponent, if_neg bare, List.drop_zero]
  rfl

theorem signed_length (mark sign : Char) (rest : List Char) (exponent : mark = 'e' ∨ mark = 'E')
    (signed : isSign sign = true) : exponentLength (mark :: sign :: rest) =
      if startsWithDigit rest then [mark, sign].length + digitsLength 10 rest else 0 := by
  have marked : (sign :: rest).head? = some '+' ∨ (sign :: rest).head? = some '-' :=
    ((sign_iff sign).mp signed).imp (congrArg Option.some) (congrArg Option.some)
  simp only [exponentLength, if_pos exponent, if_pos marked, List.drop_succ_cons, List.drop_zero]
  rfl

theorem exponent_end (front rest : List Char) :
    exponentEnd (front ++ rest) (byteLength front) =
      some (byteLength (front ++ rest.take (exponentLength rest))) := by
  rw [exponentEnd, any_byte isExponentMark blind_exponent]
  cases rest with
  | nil => simp [exponentLength]
  | cons mark rest =>
      by_cases exponent : mark = 'e' ∨ mark = 'E'
      · have ascii : mark.utf8Size = 1 := by rcases exponent with rfl | rfl <;> rfl
        have one := byte_length_behind front mark ascii
        have whole : front ++ mark :: rest = front ++ [mark] ++ rest := by simp
        rw [List.head?_cons, Option.any_some, (exponent_mark_iff mark).mpr exponent, if_pos rfl]
        by_cases signed : (byteAt (byteLength front + 1) (front ++ mark :: rest)).any isSign
        · rw [if_pos signed]
          rw [← one, whole, any_byte isSign blind_sign] at signed
          cases rest with
          | nil => cases signed
          | cons sign rest =>
              have ascii : sign.utf8Size = 1 := by
                rcases (sign_iff sign).mp signed with rfl | rfl <;> rfl
              have two := byte_length_behind (front ++ [mark]) sign ascii
              have behind := digits_behind front [mark, sign] rest
              rw [signed_length mark sign rest exponent signed, ← one, ← two, List.append_assoc]
              exact behind
        · rw [if_neg signed]
          rw [← one, whole, any_byte isSign blind_sign] at signed
          rw [unsigned_length mark rest exponent signed, ← one]
          exact digits_behind front [mark] rest
      · have nothing : exponentLength (mark :: rest) = 0 := if_neg exponent
        have other := mt (exponent_mark_iff mark).mp exponent
        simp [other, nothing]

/-! No scanner counts more characters than there are. -/

theorem digits_within (base : Nat) (rest : List Char) : digitsLength base rest ≤ rest.length :=
  (List.takeWhile_prefix _).length_le

theorem fraction_within (rest : List Char) : fractionLength rest ≤ rest.length := by
  unfold fractionLength
  split
  · rename_i rest
    have few := digits_within 10 rest
    rw [List.length_cons]
    split <;> omega
  · exact Nat.zero_le _

theorem exponent_within (rest : List Char) : exponentLength rest ≤ rest.length := by
  cases rest with
  | nil => exact Nat.le_refl 0
  | cons mark rest =>
      by_cases exponent : mark = 'e' ∨ mark = 'E'
      · by_cases signed : rest.head?.any isSign
        · cases rest with
          | nil => cases signed
          | cons sign rest =>
              have few := digits_within 10 rest
              rw [signed_length mark sign rest exponent signed]
              split <;> simp only [List.length_cons, List.length_nil] <;> omega
        · have few := digits_within 10 rest
          rw [unsigned_length mark rest exponent signed]
          split <;> simp only [List.length_cons, List.length_nil] <;> omega
      · rw [show exponentLength (mark :: rest) = 0 from if_neg exponent]
        exact Nat.zero_le _

theorem same_end_iff (text : List Char) (count more : Nat) (within : count + more ≤ text.length) :
    byteLength (text.take (count + more)) = byteLength (text.take count) ↔ more = 0 := by
  have nothing := byte_length_zero_iff ((text.drop count).take more)
  rw [List.take_add, byte_length_append, Nat.add_eq_left, nothing, List.take_eq_nil_iff,
    List.drop_eq_nil_iff]
  omega

/-! The scanners one after another, on the whole text. -/

theorem fraction_from (text : List Char) (count : Nat) :
    fractionEnd text (byteLength (text.take count)) =
      some (byteLength (text.take (count + fractionLength (text.drop count)))) := by
  have found := fraction_end (text.take count) (text.drop count)
  rwa [List.take_append_drop, ← List.take_add] at found

theorem exponent_from (text : List Char) (count : Nat) :
    exponentEnd text (byteLength (text.take count)) =
      some (byteLength (text.take (count + exponentLength (text.drop count)))) := by
  have found := exponent_end (text.take count) (text.drop count)
  rwa [List.take_append_drop, ← List.take_add] at found

theorem decimal_end (text : List Char) : decimalEnd text =
    some ((decimalLength text).1, byteLength (text.take (decimalLength text).2)) := by
  obtain ⟨fraction, isFraction⟩ : ∃ count,
      fractionLength (text.drop (digitsLength 10 text)) = count := ⟨_, rfl⟩
  obtain ⟨exponent, isExponent⟩ : ∃ count,
      exponentLength (text.drop (digitsLength 10 text + fraction)) = count := ⟨_, rfl⟩
  have whole : digitsEnd 10 text 0 = some (byteLength (text.take (digitsLength 10 text))) :=
    digits_end 10 [] text
  have middle := fraction_from text (digitsLength 10 text)
  have last := exponent_from text (digitsLength 10 text + fraction)
  have fewDigits := digits_within 10 text
  have fewFraction := fraction_within (text.drop (digitsLength 10 text))
  have fewExponent := exponent_within (text.drop (digitsLength 10 text + fraction))
  rw [isFraction] at middle fewFraction
  rw [isExponent] at last fewExponent
  rw [List.length_drop] at fewFraction fewExponent
  have kind := same_end_iff text (digitsLength 10 text) (fraction + exponent) (by omega)
  rw [← Nat.add_assoc] at kind
  simp only [decimalEnd, whole, middle, last, Option.bind_eq_bind, Option.bind_some,
    decimalLength, isFraction, isExponent, kind]
  rfl

/-- The base that is marked behind a zero. -/
def markedBase : List Char → Option Nat
  | '0' :: rest => rest.head?.bind baseOf
  | _ => none

theorem base_bytes (text : List Char) :
    (if (byteAt 0 text).any (· == '0') then (byteAt 1 text).bind baseOf else none) =
      markedBase text := by
  have zero : (byteAt 0 text).any (· == '0') = text.head?.any (· == '0') :=
    any_byte (· == '0') (ascii_apart '0' (by decide)) [] text
  rw [zero]
  cases text with
  | nil => rfl
  | cons first rest =>
      by_cases marked : first = '0'
      · subst marked
        exact bind_byte baseOf blind_base ['0'] rest
      · have nothing : markedBase (first :: rest) = none := by
          rw [markedBase]
          rintro more ⟨⟩
          exact marked rfl
        simp [marked, nothing]

theorem marked_base_iff (text : List Char) (base : Nat) : markedBase text = some base ↔
    ∃ mark rest, text = '0' :: mark :: rest ∧ baseOf mark = some base := by
  constructor
  · intro marked
    unfold markedBase at marked
    split at marked
    · rename_i rest
      cases rest with
      | nil => cases marked
      | cons mark rest => exact ⟨mark, rest, rfl, marked⟩
    · cases marked
  · rintro ⟨mark, rest, rfl, known⟩
    exact known

theorem number_length (text : List Char) : numberLength text =
    match markedBase text with
    | some base => (.integer, 2 + digitsLength base (text.drop 2))
    | none => decimalLength text := by
  cases marked : markedBase text with
  | some base =>
      obtain ⟨mark, rest, rfl, known⟩ := (marked_base_iff text base).mp marked
      simp only [numberLength, known]
      rfl
  | none =>
      unfold numberLength
      split
      · rename_i mark rest
        have unmarked : baseOf mark = none := marked
        rw [unmarked]
      · rfl

theorem number_end (text : List Char) : numberEnd text =
    some ((numberLength text).1, byteLength (text.take (numberLength text).2)) := by
  rw [numberEnd, base_bytes, number_length]
  cases marked : markedBase text with
  | none => exact decimal_end text
  | some base =>
      obtain ⟨mark, rest, rfl, known⟩ := (marked_base_iff text base).mp marked
      have ascii : ∀ entry ∈ baseMarks, entry.1.utf8Size = 1 := by decide
      have one : mark.utf8Size = 1 := ascii (mark, base) ((base_of_iff mark base).mp known)
      have two : byteLength ['0', mark] = 2 := byte_length_behind ['0'] mark one
      have taken : ('0' :: mark :: rest).take (2 + digitsLength base rest) =
          ['0', mark] ++ rest.take (digitsLength base rest) :=
        @List.take_length_add_append Char ['0', mark] rest (digitsLength base rest)
      have found : digitsEnd base ('0' :: mark :: rest) 2 =
          some (byteLength (('0' :: mark :: rest).take (2 + digitsLength base rest))) := by
        rw [taken, ← two]
        exact digits_end base ['0', mark] rest
      exact congrArg (Option.map fun last => (TokenKind.integer, last)) found

/-- A number has at least one character. -/
theorem number_filled (first : Char) (rest : List Char)
    (begins : (first.isDigit || (first == '.' && startsWithDigit rest)) = true) :
    1 ≤ (numberLength (first :: rest)).2 := by
  rw [number_length]
  cases markedBase (first :: rest) with
  | some base => exact Nat.le_add_right_of_le (by decide)
  | none =>
      rw [Bool.or_eq_true, Bool.and_eq_true, beq_iff_eq] at begins
      rcases begins with digit | ⟨rfl, digit⟩
      · have one : 1 ≤ digitsLength 10 (first :: rest) := by
          rw [digitsLength, List.takeWhile_cons_of_pos (by simp [digit_in_ten, digit]),
            List.length_cons]
          exact Nat.le_add_left 1 _
        exact Nat.le_add_right_of_le (Nat.le_add_right_of_le one)
      · have nothing : digitsLength 10 ('.' :: rest) = 0 := rfl
        have one : fractionLength ('.' :: rest) = 1 + digitsLength 10 rest := if_pos digit
        simp only [decimalLength, nothing, List.drop_zero, one]
        omega

theorem number_taken (first : Char) (rest : List Char)
    (begins : (first.isDigit || (first == '.' && startsWithDigit rest)) = true) :
    (first :: rest).take (numberLength (first :: rest)).2 =
      first :: rest.take ((numberLength (first :: rest)).2 - 1) := by
  obtain ⟨more, length⟩ := Nat.exists_eq_add_of_le' (number_filled first rest begins)
  rw [length, List.take_succ_cons, Nat.add_sub_cancel]

theorem identifier_taken (first : Char) (rest : List Char)
    (start : isIdentifierStart first = true) :
    (first :: rest).takeWhile isIdentifierPart =
      first :: rest.take (rest.takeWhile isIdentifierPart).length := by
  have part : isIdentifierPart first = true :=
    identifier_parts [first] ⟨start, List.forall_mem_nil _⟩ first List.mem_cons_self
  have taken := List.prefix_iff_eq_take.mp (List.takeWhile_prefix isIdentifierPart (l := rest))
  rw [List.takeWhile_cons_of_pos part, ← taken]

theorem quoted_end (quote : Char) (position : Nat) (escaped : Bool) (rest : List Char) :
    quotedEnd quote position escaped rest =
      (quotedLength quote escaped rest).map fun more =>
        position + byteLength (rest.take more) := by
  induction rest generalizing position escaped with
  | nil => rfl
  | cons c rest ih =>
      have behind (more : Nat) : position + c.utf8Size + byteLength (rest.take more) =
          position + byteLength ((c :: rest).take (more + 1)) := by
        rw [List.take_succ_cons, byte_length_cons, Nat.add_assoc]
      rw [quotedEnd, quotedLength]
      split
      · rw [ih, Option.map_map]
        exact congrArg (Option.map · _) (funext behind)
      · split
        · rfl
        · rw [ih, Option.map_map]
          exact congrArg (Option.map · _) (funext behind)

theorem quoted_token_end (kind : TokenKind) (quote : Char) (rest : List Char) :
    quotedTokenEnd kind quote rest = (quotedToken kind quote rest).map fun found =>
      (found.1, byteLength (quote :: rest.take found.2)) := by
  rw [quotedTokenEnd, quoted_end, quotedToken]
  cases quotedLength quote false rest with
  | none => rfl
  | some more => rw [Option.map_some, ← byte_length_cons]; rfl

/-- The position of a token's end is that behind the characters which the tokenizer takes. -/
theorem token_end (first : Char) (rest : List Char) :
    tokenEnd first (first :: rest) = some ((scan first rest).map fun found =>
      (found.1, byteLength (first :: rest.take found.2))) := by
  have cut : cutAt first.utf8Size (first :: rest) = some ([first], rest) := cut_behind [first] rest
  rw [tokenEnd, cut, Option.bind_eq_bind, Option.bind_some, scan]
  by_cases double : first = '"'
  · rw [if_pos double, if_pos double]
    exact congrArg some (quoted_token_end .string first rest)
  rw [if_neg double, if_neg double]
  by_cases backtick : first = '\x60'
  · rw [if_pos backtick, if_pos backtick]
    exact congrArg some (quoted_token_end .rawString first rest)
  rw [if_neg backtick, if_neg backtick]
  by_cases single : first = '\''
  · rw [if_pos single, if_pos single]
    exact congrArg some (quoted_token_end .character first rest)
  rw [if_neg single, if_neg single]
  by_cases begins : (first.isDigit || (first == '.' && startsWithDigit rest)) = true
  · rw [if_pos begins, if_pos begins, number_end, number_taken first rest begins]
    rfl
  rw [if_neg begins, if_neg begins]
  by_cases start : isIdentifierStart first = true
  · rw [if_pos start, if_pos start, identifier_taken first rest start]
    rfl
  rw [if_neg start, if_neg start]
  cases found : symbols.find? fun symbol => symbol.toList.isPrefixOf (first :: rest) with
  | none => rfl
  | some symbol =>
      have front := List.find?_some found
      have chars := symbol_chars first rest symbol (List.mem_of_find?_eq_some found)
        (List.isPrefixOf_iff_prefix.mp front)
      exact congrArg (fun last => some (Except.ok (TokenKind.symbol, last)))
        (congrArg byteLength chars)

-- The accented letter has two bytes.
example : tokenEnd 'n' "né1 + 2".toList = some (.ok (.identifier, 4)) := by rfl

end MarkupTemplate.Expr
