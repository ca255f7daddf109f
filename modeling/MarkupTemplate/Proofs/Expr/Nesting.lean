import MarkupTemplate.Proofs.Expr.Size

/-!
How deep the reading of an expression goes. Operands are read inside each other, in parentheses,
behind signs and between brackets, and each of them counts a term before it asks for another. Main
statement: however a text is read, the operands that are open at one time are at most one more than
the limit of terms. The allowance that the reader carries for them is therefore never used up.
-/

namespace MarkupTemplate.Expr

/-- The stages of reading an expression that may ask for an operand. -/
inductive Stage where
  | operand
  | primary
  | accesses
  | compound
  | links

/-- Behind one cursor a stage asks for an operand at the other, where operands are read this way. -/
inductive Calls (source : Source) (reading : Reading Expr) : Stage → Cursor → Cursor → Prop where
  | signed (before counted inner : Cursor) (op : UnaryOp) (taken : Option Token) :
      countTerm source before = .ok counted → prefixAt counted = some op →
      advance source counted = .ok (taken, inner) → Calls source reading .operand before inner
  | base (before counted inner : Cursor) :
      countTerm source before = .ok counted → prefixAt counted = none →
      Calls source reading .primary counted inner → Calls source reading .operand before inner
  | behindBase (before counted behind inner : Cursor) (base : Expr) :
      countTerm source before = .ok counted → prefixAt counted = none →
      primary source (compound source reading 1) counted = .ok (base, behind) →
      Calls source reading .accesses behind inner → Calls source reading .operand before inner
  | parenthesis (before inside inner : Cursor) (token : Token) :
      advance source before = .ok (some token, inside) → token.Is "(" →
      Calls source reading .compound inside inner → Calls source reading .primary before inner
  | behindMember (before counted atName behind inner : Cursor) (taken : Option Token)
      (name : String) : before.isAt "." = true → countTerm source before = .ok counted →
      advance source counted = .ok (taken, atName) →
      memberName source atName = .ok (name, behind) →
      Calls source reading .accesses behind inner → Calls source reading .accesses before inner
  | position (before counted inside inner : Cursor) (taken : Option Token) :
      before.isAt "[" = true → countTerm source before = .ok counted →
      advance source counted = .ok (taken, inside) →
      Calls source reading .compound inside inner → Calls source reading .accesses before inner
  | behindIndex (before counted inside atEnd behind inner : Cursor) (taken : Option Token)
      (position : Expr) : before.isAt "[" = true → countTerm source before = .ok counted →
      advance source counted = .ok (taken, inside) →
      compound source reading 1 inside = .ok (position, atEnd) →
      expect source "]" atEnd = .ok behind →
      Calls source reading .accesses behind inner → Calls source reading .accesses before inner
  | first (before : Cursor) : Calls source reading .compound before before
  | behindFirst (before behind inner : Cursor) (first : Expr) :
      reading before = .ok (first, behind) → Calls source reading .links behind inner →
      Calls source reading .compound before inner
  | next (before inner : Cursor) (op : BinaryOp) (taken : Option Token) :
      binaryAt before = some op → advance source before = .ok (taken, inner) →
      Calls source reading .links before inner
  | behindNext (before atNext behind inner : Cursor) (op : BinaryOp) (taken : Option Token)
      (next : Expr) : binaryAt before = some op → advance source before = .ok (taken, atNext) →
      reading atNext = .ok (next, behind) → Calls source reading .links behind inner →
      Calls source reading .links before inner

/-- Reads an operand, given how operands inside it are read. -/
def operandOver (source : Source) (reading : Reading Expr) : Reading Expr := fun before => do
  let counted ← countTerm source before
  match prefixAt counted with
  | some op => do
      let (_, cursor) ← advance source counted
      let (inner, cursor) ← reading cursor
      return (.unary op inner, cursor)
  | none => do
      let whole := compound source reading 1
      let (base, cursor) ← primary source whole counted
      access source whole cursor.tokens.length base cursor

theorem operand_succ (source : Source) (nesting : Nat) :
    operand source (nesting + 1) = operandOver source (operand source nesting) := rfl

/-- From one cursor to the other at least so many terms were counted, within the limit. -/
structure Counted (least : Nat) (before after : Cursor) : Prop where
  more : before.terms + least ≤ after.terms
  bounded : before.terms ≤ maxTerms → after.terms ≤ maxTerms

theorem Counted.trans {first second : Nat} {before middle after : Cursor}
    (left : Counted first before middle) (right : Counted second middle after) :
    Counted (first + second) before after where
  more := by
    have one := left.more
    have two := right.more
    omega
  bounded := fun few => right.bounded (left.bounded few)

theorem Counted.weaken {least : Nat} {before after : Cursor} (counted : Counted least before after) :
    Counted 0 before after where
  more := Nat.le_trans (Nat.le_add_right _ least) counted.more
  bounded := counted.bounded

theorem Took.counted {source : Source} {before after : Cursor} {tokens : List Token} {terms : Nat}
    (took : Took source before after tokens terms) : Counted terms before after where
  more := Nat.le_of_eq took.count.symm
  bounded := took.bounded

theorem advance_counted (source : Source) (before after : Cursor) (taken : Option Token)
    (read : advance source before = .ok (taken, after)) : Counted 0 before after := by
  rcases advance_took source before after taken read with ⟨_, _, rfl⟩ | ⟨_, _, took⟩
  · exact (took_nothing source after).counted
  · exact took.counted

theorem sound_counted (source : Source) (phrase : Phrase) (reading : Reading Expr)
    (sound : Sound source phrase reading) (before after : Cursor) (expr : Expr)
    (read : reading before = .ok (expr, after)) : Counted 0 before after := by
  obtain ⟨_, _, _, took⟩ := sound before expr after read
  exact took.counted.weaken

/-- The terms that a stage counts before it asks for an operand. -/
def Stage.counts : Stage → Nat
  | .operand => 1
  | .primary | .accesses | .compound | .links => 0

theorem calls_counted (source : Source) (reading : Reading Expr)
    (sound : Sound source .unary reading) (stage : Stage) (before inner : Cursor)
    (calls : Calls source reading stage before inner) : Counted stage.counts before inner := by
  have whole := compound_sound source reading sound
  induction calls with
  | signed before counted inner op taken count _ advanced =>
      have one := (count_term_took source before counted count).counted
      exact one.trans (advance_counted source counted inner taken advanced)
  | base before counted inner count _ _ ih =>
      exact (count_term_took source before counted count).counted.trans ih
  | behindBase before counted behind inner base count _ read _ ih =>
      have one := (count_term_took source before counted count).counted
      obtain ⟨_, _, _, took⟩ := primary_sound source _ whole counted behind base read
      exact (one.trans took.counted.weaken).trans ih
  | parenthesis before inside inner token advanced _ _ ih =>
      exact (advance_counted source before inside _ advanced).trans ih
  | behindMember before counted atName behind inner taken name _ count advanced named _ ih =>
      have one := (count_term_took source before counted count).counted.weaken
      have two := advance_counted source counted atName taken advanced
      obtain ⟨_, _, _, took⟩ := member_name_sound source atName behind name named
      exact ((one.trans two).trans took.counted).trans ih
  | position before counted inside inner taken _ count advanced _ ih =>
      have one := (count_term_took source before counted count).counted.weaken
      exact (one.trans (advance_counted source counted inside taken advanced)).trans ih
  | behindIndex before counted inside atEnd behind inner taken position _ count advanced read
      closed _ ih =>
      have one := (count_term_took source before counted count).counted.weaken
      have two := advance_counted source counted inside taken advanced
      have three := sound_counted source _ _ whole inside atEnd position read
      obtain ⟨_, _, took⟩ := expect_took source "]" atEnd behind closed
      exact (((one.trans two).trans three).trans took.counted).trans ih
  | first before => exact (took_nothing source before).counted
  | behindFirst before behind inner first read _ ih =>
      exact (sound_counted source _ reading sound before behind first read).trans ih
  | next before inner op taken _ advanced => exact advance_counted source before inner taken advanced
  | behindNext before atNext behind inner op taken next _ advanced read _ ih =>
      have one := advance_counted source before atNext taken advanced
      exact (one.trans (sound_counted source _ reading sound atNext behind next read)).trans ih

/-! What a stage gives depends on no operands but those it asks for. -/

section

variable (source : Source) (reading other : Reading Expr)

/-- Two readings of operands give the same wherever the stage asks for one. -/
def AgreeOnCalls (stage : Stage) (before : Cursor) : Prop :=
  ∀ inner, Calls source reading stage before inner → other inner = reading inner

/-- What is asked for behind a compound is asked for behind its first operand. -/
theorem compound_rest_calls (steps least : Nat) (left : Expr) (before : Cursor) (expr : Expr)
    (after inner : Cursor)
    (read : compoundRest source reading steps least left before = .ok (expr, after))
    (calls : Calls source reading .links after inner) :
    Calls source reading .links before inner := by
  induction steps generalizing least left before expr after with
  | zero =>
      cases read
      exact calls
  | succ steps ih =>
      rcases compound_rest_cases steps least left before expr after read with
        ⟨_, _, rfl⟩ | ⟨op, taken, atNext, next, behind, right, last, joined, advanced, nextRead,
          rightRead, read⟩
      · exact calls
      · have later := ih _ _ last expr after read calls
        exact .behindNext before atNext behind inner op taken next joined advanced nextRead
          (ih _ _ behind right last rightRead later)

-- The right operand of an operator is read with the same steps left as what follows it.
theorem compound_rest_agree (steps least : Nat) (left : Expr) (before : Cursor)
    (agree : AgreeOnCalls source reading other .links before) :
    compoundRest source other steps least left before =
      compoundRest source reading steps least left before := by
  induction steps generalizing least left before with
  | zero => rfl
  | succ steps ih =>
      rw [compoundRest, compoundRest]
      cases found : (binaryAt before).filter (least ≤ ·.precedence) with
      | none => rfl
      | some op =>
          have joined := (Option.filter_eq_some_iff.mp found).1
          cases advanced : advance source before with
          | error error => rfl
          | ok taken =>
              have same := agree taken.2 (.next before taken.2 op taken.1 joined advanced)
              simp only [bind, Except.bind, same]
              cases nextRead : reading taken.2 with
              | error error => rfl
              | ok next =>
                  have behind (inner : Cursor) (calls : Calls source reading .links next.2 inner) :
                      other inner = reading inner :=
                    agree inner (.behindNext before taken.2 next.2 inner op taken.1 next.1 joined
                      advanced nextRead calls)
                  simp only [ih _ next.1 next.2 behind]
                  cases rightRead : compoundRest source reading steps (op.precedence + 1) next.1
                      next.2 with
                  | error error => rfl
                  | ok right =>
                      exact ih _ _ right.2 fun inner calls => behind inner
                        (compound_rest_calls source reading steps _ _ _ _ _ inner rightRead calls)

theorem compound_agree (least : Nat) (before : Cursor)
    (agree : AgreeOnCalls source reading other .compound before) :
    compound source other least before = compound source reading least before := by
  have same := agree before (.first before)
  simp only [compound, bind, Except.bind, same]
  cases read : reading before with
  | error error => rfl
  | ok first =>
      exact compound_rest_agree source reading other _ _ _ first.2 fun inner calls =>
        agree inner (.behindFirst before first.2 inner first.1 read calls)

theorem primary_agree (before : Cursor)
    (agree : AgreeOnCalls source reading other .primary before) :
    primary source (compound source other 1) before =
      primary source (compound source reading 1) before := by
  simp only [primary, bind, Except.bind]
  cases advanced : advance source before with
  | error error => rfl
  | ok taken =>
      obtain ⟨token, inside⟩ := taken
      cases token with
      | none => rfl
      | some token =>
          by_cases opens : token.kind = .symbol ∧ token.text = "("
          · have whole := compound_agree source reading other 1 inside fun inner calls =>
              agree inner (.parenthesis before inside inner token advanced opens calls)
            simp only [opens, and_self, ↓reduceIte, whole]
          · simp only [opens, ↓reduceIte]

theorem accesses_agree (steps : Nat) (base : Expr) (before : Cursor)
    (agree : AgreeOnCalls source reading other .accesses before) :
    access source (compound source other 1) steps base before =
      access source (compound source reading 1) steps base before := by
  induction steps generalizing base before with
  | zero => rfl
  | succ steps ih =>
      have behind (base : Expr) (middle : Cursor)
          (passed : ∀ inner, Calls source reading .accesses middle inner →
            Calls source reading .accesses before inner) := ih base middle fun inner calls =>
        agree inner (passed inner calls)
      simp only [access, bind, Except.bind]
      split
      · rename_i dot
        cases count : countTerm source before with
        | error error => rfl
        | ok counted =>
            cases advanced : advance source counted with
            | error error => simp only [advanced]
            | ok taken =>
                cases named : memberName source taken.2 with
                | error error => simp only [advanced, named]
                | ok name =>
                    have rest := behind (.member base name.1) name.2 fun inner calls =>
                      .behindMember before counted taken.2 name.2 inner taken.1 name.1 dot count
                        advanced named calls
                    simp only [advanced, named, rest]
      · split
        · rename_i bracket
          cases count : countTerm source before with
          | error error => rfl
          | ok counted =>
              cases advanced : advance source counted with
              | error error => simp only [advanced]
              | ok taken =>
                  have whole := compound_agree source reading other 1 taken.2 fun inner calls =>
                    agree inner (.position before counted taken.2 inner taken.1 bracket count advanced
                      calls)
                  cases read : compound source reading 1 taken.2 with
                  | error error => simp only [advanced, whole, read]
                  | ok position =>
                      cases closed : expect source "]" position.2 with
                      | error error => simp only [advanced, whole, read, closed]
                      | ok last =>
                          have rest := behind (.index base position.1) last fun inner calls =>
                            .behindIndex before counted taken.2 position.2 last inner taken.1
                              position.1 bracket count advanced read closed calls
                          simp only [advanced, whole, read, closed, rest]
        · rfl

theorem operand_agree (before : Cursor) (agree : AgreeOnCalls source reading other .operand before) :
    operandOver source other before = operandOver source reading before := by
  simp only [operandOver, bind, Except.bind]
  cases count : countTerm source before with
  | error error => rfl
  | ok counted =>
      cases signed : prefixAt counted with
      | some op =>
          cases advanced : advance source counted with
          | error error => simp only [signed, advanced]
          | ok taken =>
              have same := agree taken.2
                (.signed before counted taken.2 op taken.1 count signed advanced)
              simp only [signed, advanced, same]
      | none =>
          have first := primary_agree source reading other counted fun inner calls =>
            agree inner (.base before counted inner count signed calls)
          cases read : primary source (compound source reading 1) counted with
          | error error => simp only [signed, first, read]
          | ok base =>
              have rest := accesses_agree source reading other base.2.tokens.length base.1 base.2
                fun inner calls => agree inner (.behindBase before counted base.2 inner base.1 count
                  signed read calls)
              simp only [signed, first, read, rest]

end

-- An operand inside another one has a term more in front of it, so where nothing is left of the
-- allowance the limit is reached as well.
theorem operand_more (source : Source) (nesting : Nat) (before : Cursor)
    (deep : maxTerms ≤ nesting + before.terms) :
    operand source (nesting + 1) before = operand source nesting before := by
  induction nesting generalizing before with
  | zero =>
      have refused : countTerm source before = .error (faultAt .tooComplex (before.near source)) :=
        if_pos (by omega)
      rw [operand_succ, operandOver, refused, operand]
      rfl
  | succ nesting ih =>
      rw [operand_succ source (nesting + 1), operand_succ source nesting]
      apply operand_agree
      intro inner calls
      have counted := calls_counted source _ (operand_sound source nesting) _ before inner calls
      have more := counted.more
      rw [Stage.counts] at more
      exact ih inner (by omega)

/-- Reads an operand inside any number of others. -/
def reader (source : Source) : Reading Expr := operand source (maxTerms + 1)

/-- The allowance for operands inside each other is never used up. -/
theorem reader_over (source : Source) : operandOver source (reader source) = reader source := by
  have enough : operand source (maxTerms + 1) = operand source maxTerms :=
    funext fun before => operand_more source maxTerms before (Nat.le_add_right _ _)
  rw [reader, enough, ← operand_succ, enough]

/-- So many operands are being read inside each other, the innermost from the cursor on. -/
inductive Open (source : Source) (start : Cursor) : Nat → Cursor → Prop where
  | outermost (cursor : Cursor) : Calls source (reader source) .compound start cursor →
      Open source start 1 cursor
  | inside (count : Nat) (before cursor : Cursor) : Open source start count before →
      Calls source (reader source) .operand before cursor → Open source start (count + 1) cursor

theorem open_counted (source : Source) (start : Cursor) (count : Nat) (cursor : Cursor)
    (isOpen : Open source start count cursor) :
    count ≤ cursor.terms + 1 ∧ (start.terms ≤ maxTerms → cursor.terms ≤ maxTerms) := by
  have sound := operand_sound source (maxTerms + 1)
  induction isOpen with
  | outermost cursor calls =>
      have counted := calls_counted source _ sound _ start cursor calls
      exact ⟨Nat.le_add_left 1 _, counted.bounded⟩
  | inside count before cursor _ calls ih =>
      have counted := calls_counted source _ sound _ before cursor calls
      have more := counted.more
      rw [Stage.counts] at more
      exact ⟨by omega, fun few => counted.bounded (ih.2 few)⟩

def sourceOf (text : String) : Source := ⟨text.toList, (lex text).failure⟩

def startOf (text : String) : Cursor := ⟨(lex text).tokens, 0⟩

/-- What is accepted is small and not deep. No more operands are ever read inside each other than one
above the limit of terms, whether the text is accepted or not, and reading them without an allowance
would be the same. -/
theorem expression_small (text : String) :
    (∀ expr, parse text = .ok expr → expr.terms ≤ maxTerms ∧ expr.depth ≤ maxTerms) ∧
      (∀ count cursor, Open (sourceOf text) (startOf text) count cursor → count ≤ maxTerms + 1) ∧
      operandOver (sourceOf text) (reader (sourceOf text)) = reader (sourceOf text) := by
  refine ⟨?_, ?_, reader_over (sourceOf text)⟩
  · intro expr read
    have few := parsed_terms text expr read
    exact ⟨few, Nat.le_trans (depth_le_terms expr) few⟩
  · intro count cursor isOpen
    have counted := open_counted _ _ count cursor isOpen
    have few := counted.2 (Nat.zero_le maxTerms)
    exact Nat.le_trans counted.1 (Nat.succ_le_succ few)

theorem expression_small_signs :
    (∃ expr, parse "--a" = .ok expr ∧ expr.terms ≤ maxTerms ∧ expr.depth ≤ maxTerms) ∧
      ∃ cursor, Open (sourceOf "--a") (startOf "--a") 3 cursor ∧ 3 ≤ maxTerms + 1 := by
  obtain ⟨small, nested, _⟩ := expression_small "--a"
  have outer : Open (sourceOf "--a") (startOf "--a") 1 (startOf "--a") :=
    .outermost _ (.first _)
  have middle : Open (sourceOf "--a") (startOf "--a") 2 ⟨(startOf "--a").tokens.drop 1, 1⟩ :=
    .inside 1 _ _ outer (.signed _ _ _ .negate _ rfl rfl rfl)
  have inner : Open (sourceOf "--a") (startOf "--a") 3 ⟨(startOf "--a").tokens.drop 2, 2⟩ :=
    .inside 2 _ _ middle (.signed _ _ _ .negate _ rfl rfl rfl)
  have read : parse "--a" = .ok (.unary .negate (.unary .negate (.variable "a"))) := by rfl
  exact ⟨⟨_, read, small _ read⟩, _, inner, nested 3 _ inner⟩

end MarkupTemplate.Expr
