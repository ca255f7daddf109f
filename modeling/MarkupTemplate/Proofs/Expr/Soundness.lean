import MarkupTemplate.Proofs.Expr.Precedence

/-!
What the parser accepts is derived by the grammar. Reading takes tokens from the
front of the cursor, counts their terms, and never takes the last token before
an error of the tokenizer.
-/

namespace MarkupTemplate.Expr

/-- Reading from one cursor to another took these tokens with so many terms. -/
structure Took (source : Source) (before after : Cursor) (tokens : List Token) (terms : Nat) :
    Prop where
  split : before.tokens = tokens ++ after.tokens
  count : after.terms = before.terms + terms
  clean : tokens ≠ [] → after.tokens = [] → source.failure = none
  bounded : before.terms ≤ maxTerms → after.terms ≤ maxTerms

theorem took_nothing (source : Source) (cursor : Cursor) : Took source cursor cursor [] 0 :=
  ⟨rfl, rfl, fun some => (some rfl).elim, id⟩

theorem took_more {source : Source} {before middle after : Cursor} {first second : List Token}
    {firstTerms secondTerms : Nat} (left : Took source before middle first firstTerms)
    (right : Took source middle after second secondTerms) :
    Took source before after (first ++ second) (firstTerms + secondTerms) where
  split := by rw [left.split, right.split, List.append_assoc]
  count := by rw [right.count, left.count, Nat.add_assoc]
  clean := by
    intro some atEnd
    cases second with
    | nil =>
        have same : middle.tokens = after.tokens := by simpa using right.split
        exact left.clean (by simpa using some) (same.trans atEnd)
    | cons token rest => exact right.clean (List.cons_ne_nil token rest) atEnd
  bounded := fun few => right.bounded (left.bounded few)

theorem count_term_took (source : Source) (before after : Cursor)
    (read : countTerm source before = .ok after) : Took source before after [] 1 := by
  unfold countTerm at read
  split at read
  · cases read
  · cases read
    exact ⟨rfl, rfl, fun some => (some rfl).elim, fun _ => by dsimp only; omega⟩

theorem advance_took (source : Source) (before after : Cursor) (taken : Option Token)
    (read : advance source before = .ok (taken, after)) :
    (taken = none ∧ before.tokens = [] ∧ after = before) ∨
      ∃ token, taken = some token ∧ Took source before after [token] 0 := by
  obtain ⟨tokens, terms⟩ := before
  cases tokens with
  | nil =>
      cases read
      exact Or.inl ⟨rfl, rfl, rfl⟩
  | cons token rest =>
      refine Or.inr ⟨token, ?_⟩
      cases failure : source.failure with
      | none =>
          have step : advance source ⟨token :: rest, terms⟩ = .ok (some token, ⟨rest, terms⟩) := by
            cases rest <;> simp [advance, failure]
          rw [step] at read
          cases read
          exact ⟨rfl, rfl, rfl, fun _ _ => failure, id⟩
      | some error =>
          cases rest with
          | nil => simp [advance, failure] at read
          | cons next rest =>
              simp only [advance] at read
              cases read
              exact ⟨rfl, rfl, rfl, fun _ atEnd => (List.cons_ne_nil next rest atEnd).elim, id⟩

-- Taking the token that the cursor is at.
theorem advance_at (source : Source) (before after : Cursor) (taken : Option Token)
    (token : Token) (rest : List Token) (here : before.tokens = token :: rest)
    (read : advance source before = .ok (taken, after)) :
    taken = some token ∧ Took source before after [token] 0 := by
  rcases advance_took source before after taken read with ⟨_, none, _⟩ | ⟨other, same, took⟩
  · rw [here] at none
    cases none
  · have equal : other = token := by
      have tokens := took.split
      rw [here] at tokens
      exact (List.cons.inj tokens).1.symm
    rw [← equal]
    exact ⟨same, took⟩

theorem is_at_iff (symbol : String) (cursor : Cursor) :
    cursor.isAt symbol = true ↔ ∃ token rest, cursor.tokens = token :: rest ∧ token.Is symbol := by
  unfold Cursor.isAt
  split <;> simp_all [Token.Is]

theorem expect_took (source : Source) (symbol : String) (before after : Cursor)
    (read : expect source symbol before = .ok after) :
    ∃ token, token.Is symbol ∧ Took source before after [token] 0 := by
  unfold expect at read
  split at read
  · rename_i standing
    obtain ⟨token, rest, here, is⟩ := (is_at_iff symbol before).mp standing
    obtain ⟨⟨taken, cursor⟩, advanced, same⟩ := bind_ok read
    cases same
    exact ⟨token, is, (advance_at source before _ taken token rest here advanced).2⟩
  · cases read

/-- The tokens of the links of a chain, given what is known of the tokens of an operand. -/
inductive Linked (operand : List Token → Expr → Nat → Prop) : Links → List Token → Nat → Prop where
  | nil : Linked operand [] [] 0
  | cons (token : Token) (op : BinaryOp) (tokens after : List Token) (next : Expr) (links : Links)
      (terms afterTerms : Nat) : token.Is op.symbol → operand tokens next terms →
      Linked operand links after afterTerms →
      Linked operand ((op, next) :: links) (token :: (tokens ++ after)) (terms + afterTerms)

theorem binary_at_iff (cursor : Cursor) (op : BinaryOp) :
    binaryAt cursor = some op ↔
      ∃ token rest, cursor.tokens = token :: rest ∧ token.Is op.symbol := by
  unfold binaryAt
  split <;> simp_all [Token.Is, of_symbol_iff]

theorem prefix_at_iff (cursor : Cursor) (op : UnaryOp) :
    prefixAt cursor = some op ↔
      ∃ token rest symbol, cursor.tokens = token :: rest ∧ token.Is symbol ∧
        (symbol, op) ∈ signs := by
  unfold prefixAt
  split <;> simp_all [Token.Is, mem_signs_iff]

/-- Whatever a reading gives is a phrase, made of the tokens that it took. -/
def Sound (source : Source) (phrase : Phrase) (reading : Reading Expr) : Prop :=
  ∀ before expr after, reading before = .ok (expr, after) →
    ∃ tokens terms, Derives phrase tokens expr terms ∧ Took source before after tokens terms

theorem chain_rest_sound (source : Source) (operand : Reading Expr)
    (sound : Sound source .unary operand) (steps : Nat) (before after : Cursor) (links : Links)
    (read : chainRest source operand steps before = .ok (links, after)) :
    ∃ tokens terms, Linked (Derives .unary) links tokens terms ∧
      Took source before after tokens terms := by
  induction steps generalizing before links with
  | zero =>
      cases read
      exact ⟨[], 0, .nil, took_nothing source _⟩
  | succ steps ih =>
      rw [chainRest] at read
      split at read
      · cases read
        exact ⟨[], 0, .nil, took_nothing source _⟩
      · rename_i op joined
        obtain ⟨token, rest, here, is⟩ := (binary_at_iff before op).mp joined
        obtain ⟨⟨taken, atOperand⟩, advanced, read⟩ := bind_ok read
        obtain ⟨⟨next, behind⟩, operandRead, read⟩ := bind_ok read
        obtain ⟨⟨more, last⟩, restRead, read⟩ := bind_ok read
        cases read
        have first := (advance_at source before atOperand taken token rest here advanced).2
        obtain ⟨tokens, terms, derives, second⟩ := sound atOperand next behind operandRead
        obtain ⟨others, count, linked, third⟩ := ih behind more restRead
        refine ⟨_, _, .cons token op tokens others next more terms count is derives linked, ?_⟩
        have whole := took_more (took_more first second) third
        simpa using whole

theorem linked_split (operand : List Token → Expr → Nat → Prop) (before after : Links)
    (op : BinaryOp) (next : Expr) (tokens : List Token) (terms : Nat)
    (linked : Linked operand (before ++ (op, next) :: after) tokens terms) :
    ∃ left token middle right leftTerms middleTerms rightTerms,
      tokens = left ++ token :: (middle ++ right) ∧
      terms = leftTerms + (middleTerms + rightTerms) ∧ token.Is op.symbol ∧
      Linked operand before left leftTerms ∧ operand middle next middleTerms ∧
      Linked operand after right rightTerms := by
  induction before generalizing tokens terms with
  | nil =>
      cases linked with
      | cons token _ middle right _ _ middleTerms rightTerms is derives linked =>
          exact ⟨[], token, middle, right, 0, middleTerms, rightTerms, rfl, by omega, is, .nil,
            derives, linked⟩
  | cons link before ih =>
      cases linked with
      | cons first op' own others own' _ ownTerms otherTerms firstIs derives linked =>
          obtain ⟨left, token, middle, right, leftTerms, middleTerms, rightTerms, rfl, rfl, is,
            linkedLeft, derivesNext, linkedRight⟩ := ih others otherTerms linked
          refine ⟨first :: (own ++ left), token, middle, right, ownTerms + leftTerms, middleTerms,
            rightTerms, by simp, by omega, is, ?_, derivesNext, linkedRight⟩
          exact .cons first op' own left own' before ownTerms leftTerms firstIs derives linkedLeft

theorem tree_derives (phrase : Phrase) (first : Expr) (links : Links) (expr : Expr)
    (tree : Tree phrase first links expr) (tokens after : List Token) (terms afterTerms : Nat)
    (derives : Derives .unary tokens first terms)
    (linked : Linked (Derives .unary) links after afterTerms) :
    Derives phrase (tokens ++ after) expr (terms + afterTerms) := by
  induction tree generalizing tokens after terms afterTerms with
  | operand expr =>
      cases linked
      simpa using derives
  | tighter level first links expr _ ih =>
      exact .tighter level _ expr _ (ih tokens after terms afterTerms derives linked)
  | join level first second left right before behind op _ rank _ leftIh rightIh =>
      obtain ⟨leftTokens, token, middle, rightTokens, leftTerms, middleTerms, rightTerms, rfl, rfl,
        is, linkedLeft, derivesNext, linkedRight⟩ :=
        linked_split _ before behind op second after afterTerms linked
      have leftDerives := leftIh tokens leftTokens terms leftTerms derives linkedLeft
      have rightDerives := rightIh middle rightTokens middleTerms rightTerms derivesNext linkedRight
      have mem := (mem_operators_iff level op.symbol op).mpr ⟨rfl, rank⟩
      have joined := Derives.join level _ _ token op.symbol op left right _ _ leftDerives mem is
        rightDerives
      simpa [Nat.add_assoc] using joined

theorem chain_sound (source : Source) (operand : Reading Expr)
    (sound : Sound source .unary operand) :
    Sound source (.joined .disjunction) (chain source operand) := by
  intro before expr after read
  obtain ⟨⟨first, behind⟩, firstRead, read⟩ := bind_ok read
  obtain ⟨⟨links, last⟩, restRead, read⟩ := bind_ok read
  cases read
  obtain ⟨tokens, terms, derives, took⟩ := sound before first behind firstRead
  obtain ⟨others, count, linked, tookRest⟩ :=
    chain_rest_sound source operand sound _ behind _ links restRead
  exact ⟨_, _, tree_derives _ first links _ (tree_climb first links) tokens others terms count
    derives linked, took_more took tookRest⟩

theorem Sound.shrinks {source : Source} {phrase : Phrase} {reading : Reading Expr}
    (sound : Sound source phrase reading) : Shrinks reading := by
  intro before expr after read
  obtain ⟨tokens, _, _, took⟩ := sound before expr after read
  rw [took.split, List.length_append]
  exact Nat.le_add_left _ _

theorem compound_sound (source : Source) (operand : Reading Expr)
    (sound : Sound source .unary operand) :
    Sound source (.joined .disjunction) (compound source operand 1) := by
  rw [compound_chain source operand sound.shrinks]
  exact chain_sound source operand sound

theorem member_name_sound (source : Source) (before after : Cursor) (name : String)
    (read : memberName source before = .ok (name, after)) :
    ∃ token, token.kind = .identifier ∧ name = token.text ∧
      Took source before after [token] 0 := by
  obtain ⟨⟨taken, behind⟩, advanced, read⟩ := bind_ok read
  rcases advance_took source before behind taken advanced with ⟨rfl, _, _⟩ | ⟨token, rfl, took⟩
  · cases read
  · by_cases kind : token.kind = .identifier
    · simp only [kind, ↓reduceIte] at read
      cases read
      exact ⟨token, kind, rfl, took⟩
    · simp [kind] at read

-- Accesses extend the phrase that they are read behind.
theorem access_sound (source : Source) (whole : Reading Expr)
    (sound : Sound source (.joined .disjunction) whole) (steps : Nat) (base : Expr)
    (before after : Cursor) (expr : Expr) (tokens : List Token) (terms : Nat)
    (derives : Derives .accessed tokens base terms)
    (read : access source whole steps base before = .ok (expr, after)) :
    ∃ others count, Derives .accessed (tokens ++ others) expr (terms + count) ∧
      Took source before after others count := by
  induction steps generalizing base before tokens terms with
  | zero =>
      cases read
      exact ⟨[], 0, by simpa using derives, took_nothing source _⟩
  | succ steps ih =>
      rw [access] at read
      split at read
      · rename_i atDot
        obtain ⟨dot, rest, here, is⟩ := (is_at_iff "." before).mp atDot
        obtain ⟨counted, countRead, read⟩ := bind_ok read
        obtain ⟨⟨taken, atName⟩, advanced, read⟩ := bind_ok read
        obtain ⟨⟨name, behind⟩, nameRead, read⟩ := bind_ok read
        have one := count_term_took source before counted countRead
        have same : counted.tokens = dot :: rest := by simpa [here] using one.split.symm
        have two := (advance_at source counted atName taken dot rest same advanced).2
        obtain ⟨token, kind, rfl, three⟩ := member_name_sound source atName behind name nameRead
        have grown := Derives.member tokens dot token base terms derives is kind
        obtain ⟨others, count, whole, four⟩ := ih _ behind _ _ grown read
        refine ⟨dot :: token :: others, 1 + count, ?_, ?_⟩
        · simpa [Nat.add_assoc] using whole
        · simpa using took_more (took_more (took_more one two) three) four
      · split at read
        · rename_i atBracket
          obtain ⟨opening, rest, here, is⟩ := (is_at_iff "[" before).mp atBracket
          obtain ⟨counted, countRead, read⟩ := bind_ok read
          obtain ⟨⟨taken, inside⟩, advanced, read⟩ := bind_ok read
          obtain ⟨⟨position, atEnd⟩, positionRead, read⟩ := bind_ok read
          obtain ⟨behind, expectRead, read⟩ := bind_ok read
          have one := count_term_took source before counted countRead
          have same : counted.tokens = opening :: rest := by simpa [here] using one.split.symm
          have two := (advance_at source counted inside taken opening rest same advanced).2
          obtain ⟨within, inner, derivesInner, three⟩ := sound inside position atEnd positionRead
          obtain ⟨closing, isClosing, four⟩ := expect_took source "]" atEnd behind expectRead
          have grown := Derives.index tokens within opening closing base position terms inner
            derives is derivesInner isClosing
          obtain ⟨others, count, whole, five⟩ := ih _ behind _ _ grown read
          refine ⟨opening :: (within ++ closing :: others), 1 + inner + count, ?_, ?_⟩
          · simpa [Nat.add_assoc] using whole
          · simpa using took_more (took_more (took_more (took_more one two) three) four) five
        · split at read
          · cases read
          · cases read
            exact ⟨[], 0, by simpa using derives, took_nothing source _⟩

-- The term of a primary phrase is counted before the phrase is read.
theorem primary_sound (source : Source) (whole : Reading Expr)
    (sound : Sound source (.joined .disjunction) whole) (before after : Cursor) (expr : Expr)
    (read : primary source whole before = .ok (expr, after)) :
    ∃ tokens terms, Derives .primary tokens expr (1 + terms) ∧
      Took source before after tokens terms := by
  obtain ⟨⟨taken, behind⟩, advanced, read⟩ := bind_ok read
  rcases advance_took source before behind taken advanced with ⟨rfl, _, _⟩ | ⟨token, rfl, took⟩
  · cases read
  · by_cases opens : token.kind = .symbol ∧ token.text = "("
    · simp only [opens, and_self, ↓reduceIte] at read
      obtain ⟨⟨inner, atEnd⟩, innerRead, read⟩ := bind_ok read
      obtain ⟨last, expectRead, read⟩ := bind_ok read
      cases read
      obtain ⟨within, terms, derives, two⟩ := sound behind inner atEnd innerRead
      obtain ⟨closing, isClosing, three⟩ := expect_took source ")" atEnd _ expectRead
      refine ⟨token :: (within ++ [closing]), terms, ?_, ?_⟩
      · exact .parenthesis within token closing inner terms opens derives isClosing
      · simpa using took_more (took_more took two) three
    · simp only [opens, ↓reduceIte] at read
      obtain ⟨single, tokenRead, read⟩ := bind_ok read
      cases read
      exact ⟨[token], 0, of_token_derives token expr tokenRead, took⟩

theorem operand_sound (source : Source) (nesting : Nat) :
    Sound source .unary (operand source nesting) := by
  induction nesting with
  | zero =>
      intro before expr after read
      cases read
  | succ nesting ih =>
      intro before expr after read
      rw [operand] at read
      obtain ⟨counted, countRead, read⟩ := bind_ok read
      have one := count_term_took source before counted countRead
      split at read
      · rename_i op signed
        obtain ⟨token, rest, symbol, here, is, sign⟩ := (prefix_at_iff counted op).mp signed
        obtain ⟨⟨taken, behind⟩, advanced, read⟩ := bind_ok read
        obtain ⟨⟨inner, last⟩, innerRead, read⟩ := bind_ok read
        cases read
        have two := (advance_at source counted behind taken token rest here advanced).2
        obtain ⟨tokens, terms, derives, three⟩ := ih behind inner _ innerRead
        refine ⟨token :: tokens, 1 + terms, ?_, ?_⟩
        · exact .signed token tokens symbol op inner terms sign is derives
        · simpa using took_more (took_more one two) three
      · obtain ⟨⟨base, behind⟩, primaryRead, read⟩ := bind_ok read
        have wholeSound := compound_sound source (operand source nesting) ih
        obtain ⟨tokens, terms, derives, two⟩ :=
          primary_sound source _ wholeSound counted behind base primaryRead
        obtain ⟨others, count, accessed, three⟩ := access_sound source _ wholeSound _ base behind
          after expr tokens (1 + terms) (.unaccessed tokens base _ derives) read
        refine ⟨tokens ++ others, 1 + terms + count, .unsigned _ expr _ accessed, ?_⟩
        simpa using took_more (took_more one two) three

theorem derives_some (phrase : Phrase) (tokens : List Token) (expr : Expr) (terms : Nat)
    (derives : Derives phrase tokens expr terms) : tokens ≠ [] := by
  induction derives <;> simp_all

theorem parse_sound (text : String) (expr : Expr) (read : parse text = .ok expr) :
    (lex text).failure = none ∧ ∃ terms, terms ≤ maxTerms ∧
      Derives (.joined .disjunction) (lex text).tokens expr terms := by
  unfold parse at read
  dsimp only at read
  split at read
  · cases read
  · obtain ⟨⟨whole, last⟩, wholeRead, read⟩ := bind_ok read
    dsimp only at read
    split at read
    · rename_i atEnd
      cases read
      obtain ⟨tokens, terms, derives, took⟩ :=
        compound_sound _ _ (operand_sound _ (maxTerms + 1)) _ _ last wholeRead
      have all : (lex text).tokens = tokens := by simpa [atEnd] using took.split
      have some := derives_some _ tokens _ terms derives
      have count : last.terms = terms := by simpa using took.count
      refine ⟨took.clean some atEnd, terms, ?_, all ▸ derives⟩
      rw [← count]
      exact took.bounded (Nat.zero_le maxTerms)
    · cases read

end MarkupTemplate.Expr
