import MarkupTemplate.Proofs.Expr.Soundness

/-!
The parser accepts what the grammar derives. A phrase is read off the front of a
cursor whenever its terms fit within the limit and what follows cannot continue
it. Main statement: a text is accepted with a tree exactly when all of it is
tokens that derive this tree with no more terms than allowed.
-/

namespace MarkupTemplate.Expr

/-- What follows continues no operand. -/
def Ends (tail : List Token) : Prop :=
  ∀ token rest, tail = token :: rest → ¬ token.Is "." ∧ ¬ token.Is "[" ∧ ¬ token.Is "("

/-- What follows continues no chain of operands. -/
def EndsChain (tail : List Token) : Prop :=
  Ends tail ∧ ∀ token rest (op : BinaryOp), tail = token :: rest → ¬ token.Is op.symbol

theorem is_unique (token : Token) (left right : String) (first : token.Is left)
    (second : token.Is right) : left = right := first.2.symm.trans second.2

theorem ends_at (token : Token) (rest : List Token) (symbol : String) (is : token.Is symbol)
    (other : symbol ≠ "." ∧ symbol ≠ "[" ∧ symbol ≠ "(") : Ends (token :: rest) := by
  intro first behind same
  cases same
  exact ⟨fun dot => other.1 (is_unique token _ _ is dot),
    fun bracket => other.2.1 (is_unique token _ _ is bracket),
    fun parenthesis => other.2.2 (is_unique token _ _ is parenthesis)⟩

theorem ends_chain_at (token : Token) (rest : List Token) (symbol : String) (is : token.Is symbol)
    (closes : symbol = "]" ∨ symbol = ")") : EndsChain (token :: rest) := by
  refine ⟨ends_at token rest symbol is ?_, ?_⟩
  · rcases closes with rfl | rfl <;> decide
  · intro first behind op same joined
    cases same
    have equal := is_unique token _ _ is joined
    rcases closes with rfl | rfl <;> cases op <;> revert equal <;> decide

theorem advance_clean (source : Source) (clean : source.failure = none) (token : Token)
    (rest : List Token) (used : Nat) :
    advance source ⟨token :: rest, used⟩ = .ok (some token, ⟨rest, used⟩) := by
  cases rest <;> simp [advance, clean]

theorem expect_clean (source : Source) (clean : source.failure = none) (symbol : String)
    (token : Token) (rest : List Token) (used : Nat) (is : token.Is symbol) :
    expect source symbol ⟨token :: rest, used⟩ = .ok ⟨rest, used⟩ := by
  have standing := (is_at_iff symbol ⟨token :: rest, used⟩).mpr ⟨token, rest, rfl, is⟩
  rw [expect, if_pos standing, advance_clean source clean]
  rfl

theorem count_term_few (source : Source) (tokens : List Token) (used : Nat)
    (few : used < maxTerms) : countTerm source ⟨tokens, used⟩ = .ok ⟨tokens, used + 1⟩ := by
  rw [countTerm, if_neg (Nat.not_le.mpr few)]

theorem not_at (symbol : String) (tail : List Token) (used : Nat)
    (other : ∀ token rest, tail = token :: rest → ¬ token.Is symbol) :
    Cursor.isAt symbol ⟨tail, used⟩ = false := by
  rw [Bool.eq_false_iff]
  intro standing
  obtain ⟨token, rest, here, is⟩ := (is_at_iff symbol _).mp standing
  exact other token rest here is

/-- The tokens are read as an operand wherever there is room for their terms. -/
def ReadsOperand (tokens : List Token) (expr : Expr) (terms : Nat) : Prop :=
  ∀ source nesting used tail, source.failure = none → used + terms ≤ maxTerms →
    maxTerms < nesting + used → Ends tail →
    operand source nesting ⟨tokens ++ tail, used⟩ = .ok (expr, ⟨tail, used + terms⟩)

def ReadsWhole (tokens : List Token) (expr : Expr) (terms : Nat) : Prop :=
  ∀ source nesting used tail, source.failure = none → used + terms ≤ maxTerms →
    maxTerms < nesting + used → EndsChain tail →
    compound source (operand source nesting) 1 ⟨tokens ++ tail, used⟩ =
      .ok (expr, ⟨tail, used + terms⟩)

/-- The first term is counted before a primary phrase is read. -/
def ReadsPrimary (tokens : List Token) (expr : Expr) (terms : Nat) : Prop :=
  ∃ inner, terms = 1 + inner ∧ (∀ tail used, prefixAt ⟨tokens ++ tail, used⟩ = none) ∧
    ∀ source nesting used tail, source.failure = none → used + inner ≤ maxTerms →
      maxTerms < nesting + used →
      primary source (compound source (operand source nesting) 1) ⟨tokens ++ tail, used⟩ =
        .ok (expr, ⟨tail, used + inner⟩)

/-- Reading accesses behind a base comes past these tokens, with steps left for the tail. -/
def ReadsAccesses (base : Expr) (tokens : List Token) (expr : Expr) (terms : Nat) : Prop :=
  ∀ source nesting used tail steps, source.failure = none → used + terms ≤ maxTerms →
    maxTerms < nesting + used → tokens.length + tail.length ≤ steps →
    ∃ left, tail.length ≤ left ∧
      access source (compound source (operand source nesting) 1) steps base ⟨tokens ++ tail, used⟩ =
        access source (compound source (operand source nesting) 1) left expr ⟨tail, used + terms⟩

def ReadsAccessed (tokens : List Token) (expr : Expr) (terms : Nat) : Prop :=
  ∃ front base frontTerms after afterTerms, tokens = front ++ after ∧
    terms = frontTerms + afterTerms ∧ ReadsPrimary front base frontTerms ∧
    ReadsAccesses base after expr afterTerms

/-- The tokens are a chain of readable operands with the tree of a phrase. -/
def Assembled (phrase : Phrase) (tokens : List Token) (expr : Expr) (terms : Nat) : Prop :=
  ∃ first links front frontTerms after afterTerms, tokens = front ++ after ∧
    terms = frontTerms + afterTerms ∧ Tree phrase first links expr ∧
    ReadsOperand front first frontTerms ∧ Linked ReadsOperand links after afterTerms

def Readable : Phrase → List Token → Expr → Nat → Prop
  | .joined level => Assembled (.joined level)
  | .unary => ReadsOperand
  | .accessed => ReadsAccessed
  | .primary => ReadsPrimary

theorem linked_ends (links : Links) (tokens tail : List Token) (terms : Nat)
    (linked : Linked ReadsOperand links tokens terms) (ends : EndsChain tail) :
    Ends (tokens ++ tail) := by
  cases linked with
  | nil => exact ends.1
  | cons token op _ _ _ _ _ _ is _ _ =>
      exact ends_at token _ op.symbol is (by cases op <;> decide)

theorem linked_reads (source : Source) (clean : source.failure = none) (nesting : Nat)
    (links : Links) (tokens tail : List Token) (terms used steps : Nat)
    (linked : Linked ReadsOperand links tokens terms) (room : used + terms ≤ maxTerms)
    (deep : maxTerms < nesting + used) (ends : EndsChain tail)
    (enough : tokens.length + tail.length ≤ steps) :
    chainRest source (operand source nesting) steps ⟨tokens ++ tail, used⟩ =
      .ok (links, ⟨tail, used + terms⟩) := by
  induction linked generalizing used steps with
  | nil =>
      cases steps with
      | zero => rfl
      | succ steps =>
          have none : binaryAt ⟨tail, used⟩ = none := by
            rw [Option.eq_none_iff_forall_not_mem]
            intro op joined
            obtain ⟨token, rest, here, is⟩ := (binary_at_iff _ op).mp joined
            exact ends.2 token rest op here is
          rw [List.nil_append, chainRest, none]
          rfl
  | cons token op front after next links frontTerms afterTerms is reads linked ih =>
      cases steps with
      | zero => simp at enough
      | succ steps =>
          have joined : binaryAt ⟨token :: (front ++ (after ++ tail)), used⟩ = some op :=
            (binary_at_iff _ op).mpr ⟨token, _, rfl, is⟩
          have operandRead := reads source nesting used (after ++ tail) clean (by omega) deep
            (linked_ends links after tail afterTerms linked ends)
          have restRead := ih (used + frontTerms) steps (by omega) (by omega)
            (by simp only [List.length_cons, List.length_append] at enough; omega)
          rw [List.cons_append, List.append_assoc, chainRest, joined]
          simp only [advance_clean source clean, operandRead, restRead, bind, Except.bind, pure,
            Except.pure, Nat.add_assoc]

theorem assembled_whole (tokens : List Token) (expr : Expr) (terms : Nat)
    (assembled : Assembled (.joined .disjunction) tokens expr terms) :
    ReadsWhole tokens expr terms := by
  obtain ⟨first, links, front, frontTerms, after, afterTerms, rfl, rfl, tree, reads, linked⟩ :=
    assembled
  intro source nesting used tail clean room deep ends
  have firstRead := reads source nesting used (after ++ tail) clean (by omega) deep
    (linked_ends links after tail afterTerms linked ends)
  have restRead := linked_reads source clean nesting links after tail afterTerms
    (used + frontTerms) (after ++ tail).length linked (by omega) (by omega) ends (by simp)
  have built := climb_whole first links expr tree
  rw [compound_chain source _ (operand_sound source nesting).shrinks]
  simp only [chain, List.append_assoc, firstRead, restRead, built, bind, Except.bind, pure,
    Except.pure, Nat.add_assoc]

theorem readable_assembled (level : Level) (tokens : List Token) (expr : Expr) (terms : Nat)
    (readable : Readable level.tighter tokens expr terms) :
    Assembled level.tighter tokens expr terms := by
  cases level with
  | product =>
      exact ⟨expr, [], tokens, terms, [], 0, (List.append_nil tokens).symm, rfl, .operand expr,
        readable, .nil⟩
  | sum | comparison | conjunction | disjunction => exact readable

theorem assembled_tighter (level : Level) (tokens : List Token) (expr : Expr) (terms : Nat)
    (assembled : Assembled level.tighter tokens expr terms) :
    Assembled (.joined level) tokens expr terms := by
  obtain ⟨first, links, front, frontTerms, after, afterTerms, split, count, tree, rest⟩ := assembled
  exact ⟨first, links, front, frontTerms, after, afterTerms, split, count,
    .tighter level first links expr tree, rest⟩

theorem linked_append (operand : List Token → Expr → Nat → Prop) (before after : Links)
    (left right : List Token) (leftTerms rightTerms : Nat)
    (first : Linked operand before left leftTerms) (second : Linked operand after right rightTerms) :
    Linked operand (before ++ after) (left ++ right) (leftTerms + rightTerms) := by
  induction first with
  | nil => simpa using second
  | cons token op own others next links ownTerms otherTerms is derives _ ih =>
      have whole := Linked.cons token op own _ next _ ownTerms _ is derives ih
      simpa [Nat.add_assoc] using whole

theorem assembled_join (level : Level) (before after : List Token) (token : Token) (op : BinaryOp)
    (left right : Expr) (leftTerms rightTerms : Nat)
    (leftAssembled : Assembled (.joined level) before left leftTerms)
    (rank : op.precedence = level.rank) (is : token.Is op.symbol)
    (rightAssembled : Assembled level.tighter after right rightTerms) :
    Assembled (.joined level) (before ++ token :: after) (.binary op left right)
      (leftTerms + rightTerms) := by
  obtain ⟨first, links, front, frontTerms, behind, behindTerms, rfl, rfl, leftTree, reads, linked⟩ :=
    leftAssembled
  obtain ⟨second, others, middle, middleTerms, last, lastTerms, rfl, rfl, rightTree, readsSecond,
    linkedLast⟩ := rightAssembled
  have tree := Tree.join level first second left right links others op leftTree rank rightTree
  have tail := Linked.cons token op middle last second others middleTerms lastTerms is readsSecond
    linkedLast
  refine ⟨first, _, front, frontTerms, _, _, by simp, by omega, tree, reads,
    linked_append _ links _ behind _ behindTerms _ linked tail⟩

theorem reads_signed (token : Token) (tokens : List Token) (symbol : String) (op : UnaryOp)
    (expr : Expr) (terms : Nat) (sign : (symbol, op) ∈ signs) (is : token.Is symbol)
    (reads : ReadsOperand tokens expr terms) :
    ReadsOperand (token :: tokens) (.unary op expr) (1 + terms) := by
  intro source nesting used tail clean room deep ends
  cases nesting with
  | zero => omega
  | succ nesting =>
      have signed : prefixAt ⟨token :: (tokens ++ tail), used + 1⟩ = some op :=
        (prefix_at_iff _ op).mpr ⟨token, _, symbol, rfl, is, sign⟩
      have inner := reads source nesting (used + 1) tail clean (by omega) (by omega) ends
      have counted := count_term_few source (token :: (tokens ++ tail)) used (by omega)
      simp only [List.cons_append, operand, counted, signed, advance_clean source clean, inner, bind,
        Except.bind, pure, Except.pure, Nat.add_assoc]

theorem access_ends (source : Source) (whole : Reading Expr) (steps : Nat) (base : Expr)
    (tail : List Token) (used : Nat) (ends : Ends tail) :
    access source whole steps base ⟨tail, used⟩ = .ok (base, ⟨tail, used⟩) := by
  cases steps with
  | zero => rfl
  | succ steps =>
      have dot := not_at "." tail used fun token rest here => (ends token rest here).1
      have bracket := not_at "[" tail used fun token rest here => (ends token rest here).2.1
      have parenthesis := not_at "(" tail used fun token rest here => (ends token rest here).2.2
      simp [access, dot, bracket, parenthesis]

theorem reads_unsigned (tokens : List Token) (expr : Expr) (terms : Nat)
    (accessed : ReadsAccessed tokens expr terms) : ReadsOperand tokens expr terms := by
  obtain ⟨front, base, _, after, afterTerms, rfl, rfl, ⟨inner, rfl, unsigned, reads⟩, accesses⟩ :=
    accessed
  intro source nesting used tail clean room deep ends
  cases nesting with
  | zero => omega
  | succ nesting =>
      have counted := count_term_few source (front ++ (after ++ tail)) used (by omega)
      have primaryRead := reads source nesting (used + 1) (after ++ tail) clean (by omega) (by omega)
      obtain ⟨left, _, accessRead⟩ := accesses source nesting (used + 1 + inner) tail
        (after ++ tail).length clean (by omega) (by omega) (by simp)
      have ended := access_ends source (compound source (operand source nesting) 1) left expr tail
        (used + 1 + inner + afterTerms) ends
      simp only [List.append_assoc, operand, counted, unsigned, primaryRead, accessRead, ended, bind,
        Except.bind]
      rw [Nat.add_assoc used 1 inner, Nat.add_assoc]

theorem accesses_nothing (base : Expr) : ReadsAccesses base [] base 0 :=
  fun _ _ _ tail steps _ _ _ enough => ⟨steps, by simpa using enough, rfl⟩

theorem accesses_more (base middle expr : Expr) (front after : List Token)
    (frontTerms afterTerms : Nat) (first : ReadsAccesses base front middle frontTerms)
    (second : ReadsAccesses middle after expr afterTerms) :
    ReadsAccesses base (front ++ after) expr (frontTerms + afterTerms) := by
  intro source nesting used tail steps clean room deep enough
  simp only [List.length_append] at enough
  obtain ⟨left, some, firstRead⟩ := first source nesting used (after ++ tail) steps clean (by omega)
    deep (by simp only [List.length_append]; omega)
  obtain ⟨last, more, secondRead⟩ := second source nesting (used + frontTerms) tail left clean
    (by omega) (by omega) (by simpa using some)
  refine ⟨last, more, ?_⟩
  rw [List.append_assoc, firstRead, secondRead, Nat.add_assoc]

theorem accesses_member (base : Expr) (dot name : Token) (is : dot.Is ".")
    (kind : name.kind = .identifier) :
    ReadsAccesses base [dot, name] (.member base name.text) 1 := by
  intro source nesting used tail steps clean room deep enough
  cases steps with
  | zero => simp at enough
  | succ steps =>
      have atDot := (is_at_iff "." ⟨dot :: name :: tail, used⟩).mpr ⟨dot, _, rfl, is⟩
      have counted := count_term_few source (dot :: name :: tail) used (by omega)
      refine ⟨steps, by simp only [List.length_cons, List.length_nil] at enough; omega, ?_⟩
      simp [access, atDot, counted, advance_clean source clean, memberName, kind, bind, Except.bind,
        pure, Except.pure]

theorem accesses_index (base position : Expr) (opening closing : Token) (inside : List Token)
    (terms : Nat) (is : opening.Is "[") (isClosing : closing.Is "]")
    (reads : ReadsWhole inside position terms) :
    ReadsAccesses base (opening :: (inside ++ [closing])) (.index base position) (1 + terms) := by
  intro source nesting used tail steps clean room deep enough
  cases steps with
  | zero => simp at enough
  | succ steps =>
      have notDot : Cursor.isAt "." ⟨opening :: (inside ++ closing :: tail), used⟩ = false :=
        not_at "." _ used fun token rest same dot => by
          cases same
          exact absurd (is_unique opening _ _ is dot) (by decide)
      have atBracket := (is_at_iff "[" ⟨opening :: (inside ++ closing :: tail), used⟩).mpr
        ⟨opening, _, rfl, is⟩
      have counted := count_term_few source (opening :: (inside ++ closing :: tail)) used (by omega)
      have inner := reads source nesting (used + 1) (closing :: tail) clean (by omega) (by omega)
        (ends_chain_at closing tail "]" isClosing (Or.inl rfl))
      have closes := expect_clean source clean "]" closing tail (used + 1 + terms) isClosing
      refine ⟨steps, by
        simp only [List.length_cons, List.length_append, List.length_nil] at enough; omega, ?_⟩
      rw [← Nat.add_assoc used 1 terms]
      simp [access, notDot, atBracket, counted, advance_clean source clean, inner, closes, bind,
        Except.bind]

theorem primary_literal (token : Token) (expr : Expr) (read : ofToken token = .ok expr) :
    ReadsPrimary [token] expr 1 := by
  have operand : token.kind ≠ .symbol := by
    intro kind
    simp [ofToken, kind] at read
  refine ⟨0, rfl, fun tail used => by simp [prefixAt, operand], ?_⟩
  intro source nesting used tail clean room deep
  simp [primary, advance_clean source clean, operand, read, bind, Except.bind, pure, Except.pure]

theorem primary_parenthesis (inside : List Token) (opening closing : Token) (expr : Expr)
    (terms : Nat) (is : opening.Is "(") (isClosing : closing.Is ")")
    (reads : ReadsWhole inside expr terms) :
    ReadsPrimary (opening :: (inside ++ [closing])) expr (1 + terms) := by
  refine ⟨terms, rfl, fun tail used => by simp [prefixAt, is.1, is.2, UnaryOp.ofSymbol], ?_⟩
  intro source nesting used tail clean room deep
  have inner := reads source nesting used (closing :: tail) clean room deep
    (ends_chain_at closing tail ")" isClosing (Or.inr rfl))
  have closes := expect_clean source clean ")" closing tail (used + terms) isClosing
  simp [primary, advance_clean source clean, is.1, is.2, inner, closes, bind, Except.bind, pure,
    Except.pure]

theorem derives_readable (phrase : Phrase) (tokens : List Token) (expr : Expr) (terms : Nat)
    (derives : Derives phrase tokens expr terms) : Readable phrase tokens expr terms := by
  induction derives with
  | tighter level tokens expr terms _ ih =>
      exact assembled_tighter level tokens expr terms (readable_assembled level _ _ _ ih)
  | join level before after token symbol op left right leftTerms rightTerms _ mem is _ leftIh
      rightIh =>
      obtain ⟨rfl, rank⟩ := (mem_operators_iff level symbol op).mp mem
      exact assembled_join level before after token op left right leftTerms rightTerms leftIh rank is
        (readable_assembled level _ _ _ rightIh)
  | signed token tokens symbol op operand terms sign is _ ih =>
      exact reads_signed token tokens symbol op operand terms sign is ih
  | unsigned tokens expr terms _ ih => exact reads_unsigned tokens expr terms ih
  | member tokens dot name base terms _ is kind ih =>
      obtain ⟨front, first, frontTerms, after, afterTerms, rfl, rfl, primary, accesses⟩ := ih
      have more := accesses_more first base _ after _ afterTerms _ accesses
        (accesses_member base dot name is kind)
      exact ⟨front, first, frontTerms, _, _, List.append_assoc front after _, Nat.add_assoc _ _ _,
        primary, more⟩
  | index tokens inside opening closing base position terms insideTerms _ is _ isClosing ih insideIh =>
      obtain ⟨front, first, frontTerms, after, afterTerms, rfl, rfl, primary, accesses⟩ := ih
      have whole := assembled_whole inside position insideTerms insideIh
      have more := accesses_more first base _ after _ afterTerms _ accesses
        (accesses_index base position opening closing inside insideTerms is isClosing whole)
      exact ⟨front, first, frontTerms, _, _, List.append_assoc front after _, Nat.add_assoc _ _ _,
        primary, more⟩
  | unaccessed tokens expr terms _ ih =>
      exact ⟨tokens, expr, terms, [], 0, (List.append_nil tokens).symm, rfl, ih,
        accesses_nothing expr⟩
  | literal token value denotes =>
      exact primary_literal token _ (of_token_denotes token value denotes)
  | «variable» token kind free =>
      exact primary_literal token _ (of_token_variable token kind free)
  | parenthesis inside opening closing expr terms is _ isClosing ih =>
      exact primary_parenthesis inside opening closing expr terms is isClosing
        (assembled_whole inside expr terms ih)

theorem parse_complete (text : String) (expr : Expr) (terms : Nat)
    (clean : (lex text).failure = none) (few : terms ≤ maxTerms)
    (derives : Derives (.joined .disjunction) (lex text).tokens expr terms) :
    parse text = .ok expr := by
  have whole := assembled_whole _ expr terms (derives_readable _ _ expr terms derives)
  have ends : EndsChain [] := by simp [EndsChain, Ends]
  have read := whole ⟨text.toList, none⟩ (maxTerms + 1) 0 [] rfl (by omega) (by omega) ends
  rw [List.append_nil] at read
  simp [parse, clean, read, bind, Except.bind, pure, Except.pure]

/-- A text is accepted with a tree exactly when it consists of tokens that derive the tree with no
more terms than allowed. -/
theorem parse_ok_iff_derives (text : String) (expr : Expr) :
    parse text = .ok expr ↔
      (lex text).failure = none ∧ ∃ terms, terms ≤ maxTerms ∧
        Derives (.joined .disjunction) (lex text).tokens expr terms := by
  constructor
  · exact parse_sound text expr
  · rintro ⟨clean, terms, few, derives⟩
    exact parse_complete text expr terms clean few derives

end MarkupTemplate.Expr
