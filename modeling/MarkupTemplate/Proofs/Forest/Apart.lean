import MarkupTemplate.Proofs.Forest.Linearization

/-!
Blocks in which too many others stand. A block for which no level is left is kept as
a token, and what was in it goes into the block around, but its closing token is
compared with that block all the same. Main statement: while no block on the
deepest level has the name of one that is lost in it, every node that a level is left
for stays in the block that it stood in, in its order.
-/

namespace MarkupTemplate

namespace Node

/-- Texts, tokens that stand alone, and blocks that have nothing but their default slot. -/
inductive Blocks : List Node → Prop
  | nil : Blocks []
  | text (content : String) (rest : List Node) (behind : Blocks rest) :
      Blocks (.text content :: rest)
  | alone (token : Token) (rest : List Node) (stands : token.position = .alone)
      (behind : Blocks rest) : Blocks (.token token [] :: rest)
  | block (token : Token) (inside rest : List Node) (opens : token.position = .opening)
      (within : Blocks inside) (behind : Blocks rest) :
      Blocks (.token token [(defaultSlot, inside)] :: rest)

/-- The first nodes stand among the second ones in their order, and so does what is in their
blocks as far as `room` more levels go. -/
inductive Keeps : Nat → List Node → List Node → Prop
  | nil (room : Nat) : Keeps room [] []
  | more (room : Nat) (nodes : List Node) (node : Node) (held : List Node)
      (behind : Keeps room nodes held) : Keeps room nodes (node :: held)
  | text (room : Nat) (content : String) (rest held : List Node) (behind : Keeps room rest held) :
      Keeps room (.text content :: rest) (.text content :: held)
  | alone (room : Nat) (token : Token) (rest held : List Node) (behind : Keeps room rest held) :
      Keeps room (.token token [] :: rest) (.token token [] :: held)
  | block (room : Nat) (token : Token) (inside filled rest held : List Node)
      (within : Keeps room inside filled) (behind : Keeps (room + 1) rest held) :
      Keeps (room + 1) (.token token [(defaultSlot, inside)] :: rest)
        (.token token [(defaultSlot, filled)] :: held)
  | deepest (token : Token) (inside rest : List Node) (slots : Dict (List Node))
      (held : List Node) (behind : Keeps 0 rest held) :
      Keeps 0 (.token token [(defaultSlot, inside)] :: rest) (.token token slots :: held)

/-- No block has this name, however deep it stands. -/
inductive Without (name : String) : List Node → Prop
  | nil : Without name []
  | text (content : String) (rest : List Node) (behind : Without name rest) :
      Without name (.text content :: rest)
  | alone (token : Token) (rest : List Node) (behind : Without name rest) :
      Without name (.token token [] :: rest)
  | block (token : Token) (inside rest : List Node) (other : token.name ≠ name)
      (within : Without name inside) (behind : Without name rest) :
      Without name (.token token [(defaultSlot, inside)] :: rest)

/-- A block on the last of so many levels has no block of its own name in it. -/
inductive Apart : Nat → List Node → Prop
  | nil (room : Nat) : Apart room []
  | text (room : Nat) (content : String) (rest : List Node) (behind : Apart room rest) :
      Apart room (.text content :: rest)
  | alone (room : Nat) (token : Token) (rest : List Node) (behind : Apart room rest) :
      Apart room (.token token [] :: rest)
  | block (room : Nat) (token : Token) (inside rest : List Node)
      (within : Apart (room + 1) inside) (behind : Apart (room + 2) rest) :
      Apart (room + 2) (.token token [(defaultSlot, inside)] :: rest)
  | last (token : Token) (inside rest : List Node) (within : Without token.name inside)
      (behind : Apart 1 rest) : Apart 1 (.token token [(defaultSlot, inside)] :: rest)

/-- The same nodes with further texts among them and in their blocks. -/
inductive Fuller : List Node → List Node → Prop
  | nil : Fuller [] []
  | added (content : String) (nodes fuller : List Node) (behind : Fuller nodes fuller) :
      Fuller nodes (.text content :: fuller)
  | same (node : Node) (rest fuller : List Node) (behind : Fuller rest fuller) :
      Fuller (node :: rest) (node :: fuller)
  | block (token : Token) (inside filled rest fuller : List Node) (within : Fuller inside filled)
      (behind : Fuller rest fuller) :
      Fuller (.token token [(defaultSlot, inside)] :: rest)
        (.token token [(defaultSlot, filled)] :: fuller)

theorem fuller_refl (nodes : List Node) : Fuller nodes nodes := by
  induction nodes with
  | nil => exact .nil
  | cons node rest ih => exact .same node rest rest ih

theorem fuller_last (content : String) (nodes : List Node) :
    Fuller nodes (nodes ++ [.text content]) := by
  induction nodes with
  | nil => exact .added content [] [] .nil
  | cons node rest ih => exact .same node rest (rest ++ [.text content]) ih

theorem blocks_fuller (nodes fuller : List Node) (more : Fuller nodes fuller)
    (blocks : Blocks nodes) : Blocks fuller := by
  induction more with
  | nil => exact .nil
  | added content nodes fuller _ ih => exact .text content fuller (ih blocks)
  | same node rest fuller _ ih =>
      cases blocks with
      | text content _ behind => exact .text content fuller (ih behind)
      | alone token _ stands behind => exact .alone token fuller stands (ih behind)
      | block token inside _ opens within behind =>
          exact .block token inside fuller opens within (ih behind)
  | block token inside filled rest fuller _ _ ihInside ihRest =>
      cases blocks with
      | block _ _ _ opens within behind =>
          exact .block token filled fuller opens (ihInside within) (ihRest behind)

theorem without_fuller (name : String) (nodes fuller : List Node) (more : Fuller nodes fuller)
    (without : Without name nodes) : Without name fuller := by
  induction more with
  | nil => exact .nil
  | added content nodes fuller _ ih => exact .text content fuller (ih without)
  | same node rest fuller _ ih =>
      cases without with
      | text content _ behind => exact .text content fuller (ih behind)
      | alone token _ behind => exact .alone token fuller (ih behind)
      | block token inside _ other within behind =>
          exact .block token inside fuller other within (ih behind)
  | block token inside filled rest fuller _ _ ihInside ihRest =>
      cases without with
      | block _ _ _ other within behind =>
          exact .block token filled fuller other (ihInside within) (ihRest behind)

theorem apart_fuller (room : Nat) (nodes fuller : List Node) (more : Fuller nodes fuller)
    (apart : Apart room nodes) : Apart room fuller := by
  induction more generalizing room with
  | nil => exact .nil room
  | added content nodes fuller _ ih => exact .text room content fuller (ih room apart)
  | same node rest fuller _ ih =>
      cases apart with
      | text _ content _ behind => exact .text room content fuller (ih room behind)
      | alone _ token _ behind => exact .alone room token fuller (ih room behind)
      | block room token inside _ within behind =>
          exact .block room token inside fuller within (ih (room + 2) behind)
      | last token inside _ within behind => exact .last token inside fuller within (ih 1 behind)
  | block token inside filled rest fuller inner _ ihInside ihRest =>
      cases apart with
      | block room _ _ _ within behind =>
          exact .block room token filled fuller (ihInside (room + 1) within)
            (ihRest (room + 2) behind)
      | last _ _ _ within behind =>
          exact .last token filled fuller (without_fuller token.name inside filled inner within)
            (ihRest 1 behind)

theorem keeps_behind (room : Nat) (nodes before held : List Node) (keeps : Keeps room nodes held) :
    Keeps room nodes (before ++ held) := by
  induction before with
  | nil => exact keeps
  | cons node before ih => exact .more room nodes node (before ++ held) ih

theorem all_linear_alone (marks : BlockMarks) (token : Token) (rest : List Node) :
    allLinear marks (.token token [] :: rest) = .token token :: allLinear marks rest := by
  simp [allLinear, linear]

theorem all_linear_block (marks : BlockMarks) (token : Token) (inside rest : List Node) :
    allLinear marks (.token token [(defaultSlot, inside)] :: rest) =
      .token token :: (allLinear marks inside ++ .token (marks.closing token) ::
        allLinear marks rest) := by
  simp [allLinear, linear, slotsLinear]

theorem run_kept (token : Token) (rest : List Piece) (block : OpenBlock) (outer : List OpenBlock)
    (stays : token.position = .alone ∨
      (token.position = .opening ∧ ¬ outer.length + 1 < maxDepth)) :
    (.token token :: rest).foldl Nesting.step ⟨block, outer⟩ =
      rest.foldl Nesting.step ⟨block.push (.token token []), outer⟩ := by
  have kept : Nesting.step ⟨block, outer⟩ (.token token) =
      ⟨block.push (.token token []), outer⟩ := by
    rcases stays with stands | ⟨opens, full⟩
    · simp [Nesting.step, stands, Nesting.push]
    · simp [Nesting.step, opens, Nesting.depth, full, Nesting.push]
  rw [List.foldl_cons, kept]

theorem run_ignored (closing : Token) (rest : List Piece) (block : OpenBlock)
    (outer : List OpenBlock) (closes : closing.position = .closing)
    (other : block.token.name ≠ closing.name) :
    (.token closing :: rest).foldl Nesting.step ⟨block, outer⟩ =
      rest.foldl Nesting.step ⟨block, outer⟩ := by
  have ignored : Nesting.step ⟨block, outer⟩ (.token closing) = ⟨block, outer⟩ := by
    simp [Nesting.step, closes, other]
  rw [List.foldl_cons, ignored]

section

variable (marks : BlockMarks) (holder : Token → Prop)

/-- The row of the nodes adds them to every open block that has such a token, as far as they are to
be kept, where just `room` more levels fit. -/
def KeptIn (room : Nat) (nodes : List Node) : Prop :=
  ∃ held, Keeps room nodes held ∧
    ∀ (block : OpenBlock) (outer : List OpenBlock), holder block.token →
      outer.length + 1 + room = maxDepth →
      (allLinear marks nodes).foldl Nesting.step ⟨block, outer⟩ = ⟨block.pushAll held, outer⟩

theorem kept_nil (room : Nat) : KeptIn marks holder room [] :=
  ⟨[], .nil room, fun _ _ _ _ => rfl⟩

theorem kept_text (room : Nat) (content : String) (rest : List Node)
    (behind : KeptIn marks holder room rest) :
    KeptIn marks holder room (.text content :: rest) := by
  obtain ⟨held, keeps, runs⟩ := behind
  refine ⟨.text content :: held, .text room content rest held keeps, ?_⟩
  intro block outer holds exactly
  exact runs (block.push (.text content)) outer holds exactly

theorem kept_alone (room : Nat) (token : Token) (rest : List Node)
    (stands : token.position = .alone) (behind : KeptIn marks holder room rest) :
    KeptIn marks holder room (.token token [] :: rest) := by
  obtain ⟨held, keeps, runs⟩ := behind
  refine ⟨.token token [] :: held, .alone room token rest held keeps, ?_⟩
  intro block outer holds exactly
  rw [all_linear_alone, run_kept token _ block outer (Or.inl stands)]
  exact runs (block.push (.token token [])) outer holds exactly

theorem kept_block (inner : Token → Prop) (room : Nat) (token : Token) (inside rest : List Node)
    (opens : token.position = .opening) (own : inner token)
    (within : KeptIn marks inner room inside) (behind : KeptIn marks holder (room + 1) rest) :
    KeptIn marks holder (room + 1) (.token token [(defaultSlot, inside)] :: rest) := by
  obtain ⟨filled, keepsInside, runsInside⟩ := within
  obtain ⟨held, keepsRest, runsRest⟩ := behind
  refine ⟨_, .block room token inside filled rest held keepsInside keepsRest, ?_⟩
  intro block outer holds exactly
  have filling := runsInside (.start token) (block :: outer) own
    (by simp only [List.length_cons]; omega)
  rw [OpenBlock.pushAll_start] at filling
  rw [all_linear_block, run_block token _ _ _ block outer _ defaultSlot opens
    (marks.closes token) (marks.closing_name token) (by omega) filling]
  exact runsRest (block.push (.token token [(defaultSlot, filled)])) outer holds exactly

-- The block is lost: its token and what is in it are added to the block around it, and its closing
-- token does not close that one, which has another name.
theorem kept_lost (token : Token) (inside rest : List Node) (opens : token.position = .opening)
    (other : ∀ around, holder around → around.name ≠ token.name)
    (within : KeptIn marks holder 0 inside) (behind : KeptIn marks holder 0 rest) :
    KeptIn marks holder 0 (.token token [(defaultSlot, inside)] :: rest) := by
  obtain ⟨lost, _, runsInside⟩ := within
  obtain ⟨held, keeps, runsRest⟩ := behind
  have added : Keeps 0 (.token token [(defaultSlot, inside)] :: rest)
      (.token token [] :: (lost ++ held)) :=
    .deepest token inside rest [] _ (keeps_behind 0 rest lost held keeps)
  refine ⟨_, added, ?_⟩
  intro block outer holds exactly
  have same : ((block.push (.token token [])).pushAll lost).token = block.token :=
    OpenBlock.pushAll_token lost (block.push (.token token []))
  have apart : ((block.push (.token token [])).pushAll lost).token.name ≠
      (marks.closing token).name := by
    rw [same, marks.closing_name]
    exact other block.token holds
  rw [all_linear_block, run_kept token _ block outer (Or.inr ⟨opens, by omega⟩),
    List.foldl_append, runsInside (block.push (.token token [])) outer holds exactly,
    run_ignored _ _ _ outer (marks.closes token) apart, runsRest _ outer (same ▸ holds) exactly,
    ← OpenBlock.pushAll_append]
  rfl

end

theorem without_kept (marks : BlockMarks) (name : String) (nodes : List Node)
    (blocks : Blocks nodes) (without : Without name nodes) :
    KeptIn marks (·.name = name) 0 nodes := by
  induction blocks with
  | nil => exact kept_nil marks _ 0
  | text content rest _ ih =>
      cases without with
      | text _ _ behind => exact kept_text marks _ 0 content rest (ih behind)
  | alone token rest stands _ ih =>
      cases without with
      | alone _ _ behind => exact kept_alone marks _ 0 token rest stands (ih behind)
  | block token inside rest opens _ _ ihInside ihRest =>
      cases without with
      | block _ _ _ other within behind =>
          have apart (around : Token) (named : around.name = name) : around.name ≠ token.name := by
            rw [named]
            exact other.symm
          exact kept_lost marks _ token inside rest opens apart (ihInside within) (ihRest behind)

-- The levels that are left are those that the blocks need, so only the last one is ever full.
theorem apart_kept (marks : BlockMarks) (room : Nat) (nodes : List Node)
    (apart : Apart room nodes) (blocks : Blocks nodes) :
    KeptIn marks (fun _ => True) room nodes := by
  induction apart with
  | nil room => exact kept_nil marks _ room
  | text room content rest _ ih =>
      cases blocks with
      | text _ _ behind => exact kept_text marks _ room content rest (ih behind)
  | alone room token rest _ ih =>
      cases blocks with
      | alone _ _ stands behind => exact kept_alone marks _ room token rest stands (ih behind)
  | block room token inside rest _ _ ihInside ihRest =>
      cases blocks with
      | block _ _ _ opens within behind =>
          exact kept_block marks _ _ (room + 1) token inside rest opens trivial (ihInside within)
            (ihRest behind)
  | last token inside rest without _ ihRest =>
      cases blocks with
      | block _ _ _ opens within behind =>
          have filled := without_kept marks token.name inside within without
          exact kept_block marks _ (·.name = token.name) 0 token inside rest opens rfl filled
            (ihRest behind)

theorem fold_keeps (marks : BlockMarks) (forest : List Node) (blocks : Blocks forest)
    (apart : Apart (maxDepth - 1) forest) :
    Keeps (maxDepth - 1) forest (fold (allLinear marks forest)) := by
  obtain ⟨held, keeps, runs⟩ := apart_kept marks (maxDepth - 1) forest apart blocks
  have whole := runs (.start Nesting.root) [] trivial (by decide)
  rw [OpenBlock.pushAll_start] at whole
  have folded : fold (allLinear marks forest) = held := by
    rw [fold, Nesting.start, whole]
    rfl
  rwa [folded]

end Node

end MarkupTemplate
