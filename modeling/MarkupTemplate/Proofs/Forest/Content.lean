import MarkupTemplate.Proofs.Forest.Building
import MarkupTemplate.Proofs.Forest.Step

/-!
The content of a forest: its texts and tokens in the order in which they stand.
While blocks are open, what has been taken so far stands in several of them; read
from the outermost block inwards it is one row. Main statement: without continuing
tokens this row grows by every piece but the closing tokens, so folding keeps the
content in its order, whether blocks are closed or not.
-/

namespace MarkupTemplate

namespace Piece

def closes : Piece → Bool
  | .text _ => false
  | .token found => found.position == .closing

def continues : Piece → Bool
  | .text _ => false
  | .token found => found.position == .continuing

end Piece

/-- The slot that every block has. -/
def isDefault (slot : String) : Bool := slot == defaultSlot

def anySlot (_ : String) : Bool := true

namespace Node

mutual

/-- A node's own piece, and then those in its slots of the given names. -/
def pieces (within : String → Bool) : Node → List Piece
  | .text content => [.text content]
  | .token block slots => .token block :: slotPieces within slots

def allPieces (within : String → Bool) : List Node → List Piece
  | [] => []
  | node :: rest => node.pieces within ++ allPieces within rest

def slotPieces (within : String → Bool) : List (String × List Node) → List Piece
  | [] => []
  | (name, nodes) :: rest =>
      (if within name then allPieces within nodes else []) ++ slotPieces within rest

end

/-- The pieces of a forest in pre-order, where a block has its default slot alone. -/
def flatten (forest : List Node) : List Piece := allPieces isDefault forest

/-- The pieces of a forest in whatever slot. -/
def everything (forest : List Node) : List Piece := allPieces anySlot forest

theorem all_pieces_append (within : String → Bool) (left right : List Node) :
    allPieces within (left ++ right) = allPieces within left ++ allPieces within right := by
  induction left with
  | nil => rfl
  | cons node rest ih => simp [allPieces, ih]

theorem everything_pieces (row : List Piece) : everything (row.map Piece.node) = row := by
  induction row with
  | nil => rfl
  | cons piece rest ih =>
      rw [everything] at ih
      cases piece <;> simp [everything, allPieces, pieces, slotPieces, ih]

end Node

open Node

namespace Nesting

/-- What has been taken and is kept, from the outermost block inwards. The token of the outermost
block has not been taken. -/
def written (within : String → Bool) (top : OpenBlock) : List OpenBlock → List Piece
  | [] => slotPieces within top.slots
  | parent :: outer =>
      written within parent outer ++ .token top.token :: slotPieces within top.slots

/-- The block has no slot but the default one. -/
def Unturned (block : OpenBlock) : Prop :=
  ∃ nodes, block = ⟨block.token, [(defaultSlot, nodes)], defaultSlot⟩

theorem unturned_start (token : Token) : Unturned (.start token) := ⟨[], rfl⟩

theorem unturned_push (block : OpenBlock) (node : Node) (unturned : Unturned block) :
    Unturned (block.push node) := by
  obtain ⟨nodes, same⟩ := unturned
  rw [same]
  exact ⟨nodes ++ [node], OpenBlock.pushAll_last block.token defaultSlot [] nodes [node]
    List.not_mem_nil⟩

theorem written_push (top : OpenBlock) (outer : List OpenBlock) (node : Node)
    (unturned : Unturned top) :
    written isDefault (top.push node) outer =
      written isDefault top outer ++ node.pieces isDefault := by
  obtain ⟨nodes, same⟩ := unturned
  have pushed : OpenBlock.push node ⟨top.token, [(defaultSlot, nodes)], defaultSlot⟩ =
      ⟨top.token, [(defaultSlot, nodes ++ [node])], defaultSlot⟩ :=
    OpenBlock.push_last top.token defaultSlot [] nodes node List.not_mem_nil
  rw [same, pushed]
  cases outer with
  | nil => simp [written, slotPieces, isDefault, all_pieces_append, allPieces]
  | cons parent outer => simp [written, slotPieces, isDefault, all_pieces_append, allPieces]

-- The innermost block goes behind what its parent holds, where it stood before.
theorem written_closed (top parent : OpenBlock) (outer : List OpenBlock)
    (unturned : Unturned parent) :
    written isDefault (parent.push top.node) outer = written isDefault top (parent :: outer) := by
  rw [written_push parent outer top.node unturned]
  rfl

/-- No open block has been given another slot. -/
def AllUnturned (nesting : Nesting) : Prop :=
  Unturned nesting.top ∧ ∀ block ∈ nesting.outer, Unturned block

theorem closed_writes (nesting : Nesting) (unturned : nesting.AllUnturned) :
    nesting.closed.AllUnturned ∧
      written isDefault nesting.closed.top nesting.closed.outer =
        written isDefault nesting.top nesting.outer := by
  obtain ⟨top, outer⟩ := nesting
  cases outer with
  | nil => exact ⟨unturned, rfl⟩
  | cons parent outer =>
      have around := unturned.2 parent List.mem_cons_self
      constructor
      · constructor
        · exact unturned_push parent top.node around
        · intro block member
          exact unturned.2 block (List.mem_cons_of_mem parent member)
      · exact written_closed top parent outer around

theorem step_writes (nesting : Nesting) (piece : Piece) (unturned : nesting.AllUnturned)
    (stays : piece.continues = false) :
    (nesting.step piece).AllUnturned ∧
      written isDefault (nesting.step piece).top (nesting.step piece).outer =
        written isDefault nesting.top nesting.outer ++
          [piece].filter fun piece => !piece.closes := by
  have pushed : ∀ node : Node, (nesting.push node).AllUnturned := fun node =>
    ⟨unturned_push nesting.top node unturned.1, unturned.2⟩
  have taken : nesting.Taken piece.node (nesting.step piece) := take_taken nesting piece.node
  cases piece with
  | text content =>
      constructor
      · exact pushed (.text content)
      · exact written_push nesting.top nesting.outer (.text content) unturned.1
  | token token =>
      generalize nesting.step (.token token) = next at taken
      cases taken with
      | kept _ _ position =>
          have stands : (Piece.token token).closes = false := by
            rcases position with alone | ⟨opening, _⟩
            · simp [Piece.closes, alone]
            · simp [Piece.closes, opening]
          have wrote := written_push nesting.top nesting.outer (.token token []) unturned.1
          constructor
          · exact pushed (.token token [])
          · simpa [stands, push, pieces, slotPieces] using wrote
      | opened _ _ opens _ =>
          constructor
          · constructor
            · exact unturned_start token
            · exact List.forall_mem_cons.mpr unturned
          · simp [opened, written, OpenBlock.start, slotPieces, allPieces, Piece.closes, opens]
      | closed _ _ closes _ =>
          have gone : (Piece.token token).closes = true := by simp [Piece.closes, closes]
          simpa [gone] using closed_writes nesting unturned
      | ignored _ _ closes _ =>
          have gone : (Piece.token token).closes = true := by simp [Piece.closes, closes]
          simpa [gone] using unturned
      | turned _ _ continues => simp [Piece.continues, continues] at stays

theorem run_writes (pieces : List Piece) (nesting : Nesting) (unturned : nesting.AllUnturned)
    (stay : ∀ piece ∈ pieces, piece.continues = false) :
    (pieces.foldl step nesting).AllUnturned ∧
      written isDefault (pieces.foldl step nesting).top (pieces.foldl step nesting).outer =
        written isDefault nesting.top nesting.outer ++
          pieces.filter fun piece => !piece.closes := by
  induction pieces generalizing nesting with
  | nil => simpa using unturned
  | cons piece rest ih =>
      obtain ⟨next, wrote⟩ := step_writes nesting piece unturned (stay piece List.mem_cons_self)
      have others := ih (nesting.step piece) next fun other member =>
        stay other (List.mem_cons_of_mem piece member)
      rw [List.foldl_cons]
      refine ⟨others.1, ?_⟩
      rw [others.2, wrote, List.append_assoc, ← List.filter_append, List.singleton_append]

-- Closing the blocks that are left open moves nothing in the row.
theorem close_all_writes (top : OpenBlock) (outer : List OpenBlock) (unturned : Unturned top)
    (around : ∀ block ∈ outer, Unturned block) :
    Unturned (closeAll top outer) ∧
      written isDefault (closeAll top outer) [] = written isDefault top outer := by
  induction outer generalizing top with
  | nil => exact ⟨unturned, rfl⟩
  | cons parent outer ih =>
      have first := around parent List.mem_cons_self
      have others := ih (parent.push top.node) (unturned_push parent top.node first)
        fun block member => around block (List.mem_cons_of_mem parent member)
      rw [closeAll, ← written_closed top parent outer first]
      exact others

theorem finish_writes (nesting : Nesting) (unturned : nesting.AllUnturned) :
    flatten nesting.finish = written isDefault nesting.top nesting.outer := by
  obtain ⟨⟨nodes, same⟩, wrote⟩ := close_all_writes nesting.top nesting.outer unturned.1 unturned.2
  rw [← wrote, finish, same]
  simp [flatten, written, slotPieces, isDefault, OpenBlock.contents, Dict.find]

end Nesting

theorem flatten_fold (row : List Piece) (stay : ∀ piece ∈ row, piece.continues = false) :
    flatten (fold row) = row.filter fun piece => !piece.closes := by
  have fresh : Nesting.start.AllUnturned := ⟨Nesting.unturned_start _, by simp [Nesting.start]⟩
  obtain ⟨unturned, wrote⟩ := Nesting.run_writes row Nesting.start fresh stay
  have nothing : Nesting.written isDefault Nesting.start.top Nesting.start.outer = [] := rfl
  rw [fold, Nesting.finish_writes _ unturned, wrote, nothing, List.nil_append]

end MarkupTemplate
