import MarkupTemplate.Forest

/-!
Building a forest, block by block. A run of pieces takes the innermost open
block from one state to another, whatever is open around it, as long as enough
levels are left for the blocks that the run opens. Runs follow one another, and
a run between the two tokens of a block becomes one node of the block around it.
-/

namespace MarkupTemplate

namespace OpenBlock

def pushAll (nodes : List Node) (block : OpenBlock) : OpenBlock :=
  nodes.foldl (fun block node => block.push node) block

theorem pushAll_append (left right : List Node) (block : OpenBlock) :
    block.pushAll (left ++ right) = (block.pushAll left).pushAll right := by
  simp [pushAll, List.foldl_append]

theorem pushAll_token (nodes : List Node) (block : OpenBlock) :
    (block.pushAll nodes).token = block.token := by
  induction nodes generalizing block with
  | nil => rfl
  | cons node rest ih => exact ih (block.push node)

theorem push_last (token : Token) (slot : String) (before : Dict (List Node)) (held : List Node)
    (node : Node) (fresh : slot ∉ Dict.keys before) :
    push node ⟨token, before ++ [(slot, held)], slot⟩ =
      ⟨token, before ++ [(slot, held ++ [node])], slot⟩ := by
  have found : contents slot (before ++ [(slot, held)]) = held := by
    rw [contents, Dict.find_append_absent slot before _ fresh]
    simp [Dict.find]
  rw [push, found, Dict.insert_append_absent slot _ before _ fresh]
  simp [Dict.insert]

-- The slot that is being filled comes last and grows at its end.
theorem pushAll_last (token : Token) (slot : String) (before : Dict (List Node))
    (held nodes : List Node) (fresh : slot ∉ Dict.keys before) :
    pushAll nodes ⟨token, before ++ [(slot, held)], slot⟩ =
      ⟨token, before ++ [(slot, held ++ nodes)], slot⟩ := by
  induction nodes generalizing held with
  | nil => simp [pushAll]
  | cons node rest ih =>
      have step : pushAll (node :: rest) ⟨token, before ++ [(slot, held)], slot⟩ =
          pushAll rest (push node ⟨token, before ++ [(slot, held)], slot⟩) := rfl
      rw [step, push_last token slot before held node fresh, ih (held ++ [node])]
      simp

theorem pushAll_start (token : Token) (nodes : List Node) :
    pushAll nodes (start token) = ⟨token, [(defaultSlot, nodes)], defaultSlot⟩ :=
  pushAll_last token defaultSlot [] [] nodes List.not_mem_nil

theorem turn_fresh (token : Token) (slot name : String) (slots : Dict (List Node))
    (fresh : name ∉ Dict.keys slots) :
    turn name ⟨token, slots, slot⟩ = ⟨token, slots ++ [(name, [])], name⟩ := by
  rw [turn, Dict.insert_absent name [] slots fresh]

end OpenBlock

/-- The pieces take the innermost open block from `before` to `after` wherever `room` more levels
fit. -/
def Runs (room : Nat) (pieces : List Piece) (before after : OpenBlock) : Prop :=
  ∀ outer : List OpenBlock, outer.length + 1 + room ≤ maxDepth →
    pieces.foldl Nesting.step ⟨before, outer⟩ = ⟨after, outer⟩

/-- The pieces add these nodes to whatever block is open. -/
def Builds (room : Nat) (pieces : List Piece) (nodes : List Node) : Prop :=
  ∀ block : OpenBlock, Runs room pieces block (block.pushAll nodes)

theorem runs_append (room : Nat) (first second : List Piece) (before middle after : OpenBlock)
    (left : Runs room first before middle) (right : Runs room second middle after) :
    Runs room (first ++ second) before after := by
  intro outer fits
  rw [List.foldl_append, left outer fits, right outer fits]

theorem runs_more (few room : Nat) (pieces : List Piece) (before after : OpenBlock)
    (runs : Runs few pieces before after) (less : few ≤ room) : Runs room pieces before after := by
  intro outer fits
  exact runs outer (by omega)

theorem runs_turn (room : Nat) (token : Token) (block : OpenBlock)
    (continuing : token.position = .continuing) :
    Runs room [.token token] block (block.turn token.name) := by
  intro outer _
  simp [Nesting.step, continuing]

theorem builds_nil (room : Nat) : Builds room [] [] := fun _ _ _ => rfl

theorem builds_append (room : Nat) (first second : List Piece) (left right : List Node)
    (buildsLeft : Builds room first left) (buildsRight : Builds room second right) :
    Builds room (first ++ second) (left ++ right) := by
  intro block
  have runs := runs_append room first second _ _ _ (buildsLeft block)
    (buildsRight (block.pushAll left))
  rwa [← OpenBlock.pushAll_append] at runs

theorem builds_cons (room : Nat) (piece : Piece) (pieces : List Piece) (node : Node)
    (nodes : List Node) (first : Builds room [piece] [node]) (rest : Builds room pieces nodes) :
    Builds room (piece :: pieces) (node :: nodes) :=
  builds_append room [piece] pieces [node] nodes first rest

theorem builds_more (few room : Nat) (pieces : List Piece) (nodes : List Node)
    (builds : Builds few pieces nodes) (less : few ≤ room) : Builds room pieces nodes :=
  fun block => runs_more few room pieces _ _ (builds block) less

theorem builds_text (room : Nat) (content : String) :
    Builds room [.text content] [.text content] := fun _ _ _ => rfl

theorem builds_alone (room : Nat) (token : Token) (alone : token.position = .alone) :
    Builds room [.token token] [.token token []] := by
  intro block outer _
  simp [Nesting.step, alone, Nesting.push, OpenBlock.pushAll]

-- What stands in a block is taken with the block around as one more open block, and the closing
-- token names the one on top.
theorem run_block (token closing : Token) (inside rest : List Piece) (block : OpenBlock)
    (outer : List OpenBlock) (slots : Dict (List Node)) (slot : String)
    (opens : token.position = .opening) (closes : closing.position = .closing)
    (same : closing.name = token.name) (room : outer.length + 1 < maxDepth)
    (filled : inside.foldl Nesting.step ⟨.start token, block :: outer⟩ =
      ⟨⟨token, slots, slot⟩, block :: outer⟩) :
    (.token token :: (inside ++ .token closing :: rest)).foldl Nesting.step ⟨block, outer⟩ =
      rest.foldl Nesting.step ⟨block.push (.token token slots), outer⟩ := by
  have opened : Nesting.step ⟨block, outer⟩ (.token token) =
      ⟨.start token, block :: outer⟩ := by
    simp [Nesting.step, opens, Nesting.depth, room, Nesting.opened]
  have closed : Nesting.step ⟨⟨token, slots, slot⟩, block :: outer⟩ (.token closing) =
      ⟨block.push (.token token slots), outer⟩ := by
    simp [Nesting.step, closes, same, Nesting.closed, OpenBlock.node]
  rw [List.foldl_cons, opened, List.foldl_append, filled, List.foldl_cons, closed]

-- A block takes one level more than what stands in it.
theorem builds_block (room : Nat) (token closing : Token) (inside : List Piece)
    (slots : Dict (List Node)) (slot : String) (opens : token.position = .opening)
    (closes : closing.position = .closing) (same : closing.name = token.name)
    (runs : Runs room inside (.start token) ⟨token, slots, slot⟩) :
    Builds (room + 1) (.token token :: inside ++ [.token closing]) [.token token slots] := by
  intro block outer fits
  have filled := runs (block :: outer) (by simp only [List.length_cons]; omega)
  exact run_block token closing inside [] block outer slots slot opens closes same (by omega) filled

-- A block, and what stands behind it in the block around both.
theorem builds_block_before (deep room : Nat) (token closing : Token) (inside rest : List Piece)
    (slots : Dict (List Node)) (slot : String) (nodes : List Node)
    (opens : token.position = .opening) (closes : closing.position = .closing)
    (same : closing.name = token.name)
    (runs : Runs deep inside (.start token) ⟨token, slots, slot⟩) (behind : Builds room rest nodes) :
    Builds (max (deep + 1) room) (.token token :: (inside ++ .token closing :: rest))
      (.token token slots :: nodes) := by
  have first := builds_block deep token closing inside slots slot opens closes same runs
  have block := builds_more _ (max (deep + 1) room) _ _ first (Nat.le_max_left _ _)
  have others := builds_more _ (max (deep + 1) room) _ _ behind (Nat.le_max_right _ _)
  have whole := builds_append _ _ _ _ _ block others
  simpa using whole

theorem runs_default (room : Nat) (token : Token) (pieces : List Piece) (nodes : List Node)
    (builds : Builds room pieces nodes) :
    Runs room pieces (.start token) ⟨token, [(defaultSlot, nodes)], defaultSlot⟩ := by
  rw [← OpenBlock.pushAll_start]
  exact builds (.start token)

-- A continuing token starts a slot, and what follows it goes there.
theorem runs_slot (room : Nat) (token turning : Token) (slot : String) (slots : Dict (List Node))
    (pieces : List Piece) (nodes : List Node) (continuing : turning.position = .continuing)
    (fresh : turning.name ∉ Dict.keys slots) (builds : Builds room pieces nodes) :
    Runs room (.token turning :: pieces) ⟨token, slots, slot⟩
      ⟨token, slots ++ [(turning.name, nodes)], turning.name⟩ := by
  have turn := runs_turn room turning ⟨token, slots, slot⟩ continuing
  rw [OpenBlock.turn_fresh token slot turning.name slots fresh] at turn
  have filled := builds ⟨token, slots ++ [(turning.name, [])], turning.name⟩
  rw [OpenBlock.pushAll_last token turning.name slots [] nodes fresh] at filled
  exact runs_append room [.token turning] pieces _ _ _ turn filled

theorem fold_builds (room : Nat) (pieces : List Piece) (nodes : List Node)
    (builds : Builds room pieces nodes) (fits : room < maxDepth) : fold pieces = nodes := by
  have whole := builds (.start Nesting.root) [] (by simp only [List.length_nil]; omega)
  rw [OpenBlock.pushAll_start] at whole
  rw [fold, Nesting.start, whole]
  rfl

end MarkupTemplate
