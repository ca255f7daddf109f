import MarkupTemplate.Proofs.Forest.Content

/-!
How often pieces occur in a forest. A slot that is started anew loses what it
held, every other step moves what is there. Main statement: folding keeps the
content in its order as long as no slot is continued, and in any case nothing
occurs more often behind than before, in whatever slots tokens had already.
-/

namespace MarkupTemplate

open Node

section

variable (piece : Piece)

/-- How often a piece occurs in a row of slots. -/
def heldIn (slots : List (String × List Node)) : Nat :=
  (slotPieces anySlot slots).count piece

theorem held_insert (name : String) (nodes : List Node) (slots : Dict (List Node)) :
    heldIn piece (Dict.insert name nodes slots) +
        (everything (OpenBlock.contents name slots)).count piece =
      heldIn piece slots + (everything nodes).count piece := by
  induction slots with
  | nil =>
      simp [heldIn, Dict.insert, OpenBlock.contents, Dict.find, everything, slotPieces, allPieces,
        anySlot]
  | cons slot rest ih =>
      obtain ⟨present, held⟩ := slot
      by_cases same : present = name
      · simp only [heldIn, Dict.insert, OpenBlock.contents, Dict.find, same, everything, slotPieces,
          anySlot, List.count_append, if_true, Option.getD_some]
        omega
      · simp only [heldIn, OpenBlock.contents, everything] at ih
        simp only [heldIn, Dict.insert, OpenBlock.contents, Dict.find, same, everything, slotPieces,
          List.count_append, if_false]
        omega

theorem contents_held (name : String) (slots : Dict (List Node)) :
    (everything (OpenBlock.contents name slots)).count piece ≤ heldIn piece slots := by
  have emptied := held_insert piece name [] slots
  simp only [everything, allPieces, List.count_nil] at emptied
  rw [everything]
  omega

theorem turn_held (name : String) (block : OpenBlock) :
    heldIn piece (block.turn name).slots ≤ heldIn piece block.slots := by
  have started := held_insert piece name [] block.slots
  simp only [everything, allPieces, List.count_nil] at started
  change heldIn piece (Dict.insert name [] block.slots) ≤ _
  omega

theorem push_held (node : Node) (block : OpenBlock) :
    heldIn piece (block.push node).slots =
      heldIn piece block.slots + (node.pieces anySlot).count piece := by
  have grown := held_insert piece block.slot (OpenBlock.contents block.slot block.slots ++ [node])
    block.slots
  simp only [everything, all_pieces_append, allPieces, List.append_nil, List.count_append] at grown
  change heldIn piece (Dict.insert block.slot _ block.slots) = _
  omega

namespace Nesting

/-- How often a piece occurs in the open blocks. -/
def heldBy (top : OpenBlock) (outer : List OpenBlock) : Nat :=
  (written anySlot top outer).count piece

theorem held_around (top parent : OpenBlock) (outer : List OpenBlock) :
    heldBy piece top (parent :: outer) =
      heldBy piece parent outer + [Piece.token top.token].count piece + heldIn piece top.slots := by
  simp only [heldBy, written, heldIn, List.count_append, List.count_cons, List.count_nil]
  omega

theorem held_push (top : OpenBlock) (outer : List OpenBlock) (node : Node) :
    heldBy piece (top.push node) outer =
      heldBy piece top outer + (node.pieces anySlot).count piece := by
  have grown := push_held piece node top
  cases outer with
  | nil => exact grown
  | cons parent outer =>
      rw [held_around, held_around, grown]
      simp only [OpenBlock.push]
      omega

theorem held_turn (name : String) (top : OpenBlock) (outer : List OpenBlock) :
    heldBy piece (top.turn name) outer ≤ heldBy piece top outer := by
  have less := turn_held piece name top
  cases outer with
  | nil => exact less
  | cons parent outer =>
      rw [held_around, held_around]
      simp only [OpenBlock.turn] at less ⊢
      omega

-- A block that is closed keeps its token and its slots.
theorem held_closed (top parent : OpenBlock) (outer : List OpenBlock) :
    heldBy piece (parent.push top.node) outer = heldBy piece top (parent :: outer) := by
  rw [held_push, held_around]
  simp only [OpenBlock.node, pieces, heldIn, List.count_cons, List.count_nil]
  omega

theorem take_held (nesting : Nesting) (node : Node) :
    heldBy piece (nesting.take node).top (nesting.take node).outer ≤
      heldBy piece nesting.top nesting.outer + (node.pieces anySlot).count piece := by
  have taken := take_taken nesting node
  generalize nesting.take node = next at taken
  cases taken with
  | text content => exact Nat.le_of_eq (held_push piece nesting.top nesting.outer _)
  | kept token slots _ => exact Nat.le_of_eq (held_push piece nesting.top nesting.outer _)
  | opened token slots _ _ =>
      have nothing : heldIn piece (OpenBlock.start token).slots = 0 := rfl
      have own : [Piece.token token].Sublist ((Node.token token slots).pieces anySlot) :=
        List.singleton_sublist.mpr List.mem_cons_self
      change heldBy piece (OpenBlock.start token) (nesting.top :: nesting.outer) ≤ _
      rw [held_around, nothing]
      exact Nat.add_le_add_left (own.count_le piece) _
  | closed token slots _ _ =>
      obtain ⟨top, outer⟩ := nesting
      cases outer with
      | nil => exact Nat.le_add_right _ _
      | cons parent outer =>
          have kept := held_closed piece top parent outer
          exact Nat.le_trans (Nat.le_of_eq kept) (Nat.le_add_right _ _)
  | ignored token slots _ _ => exact Nat.le_add_right _ _
  | turned token slots _ =>
      have less := held_turn piece token.name nesting.top nesting.outer
      exact Nat.le_trans less (Nat.le_add_right _ _)

theorem run_held (nodes : List Node) (nesting : Nesting) :
    heldBy piece (nodes.foldl take nesting).top (nodes.foldl take nesting).outer ≤
      heldBy piece nesting.top nesting.outer + (everything nodes).count piece := by
  induction nodes generalizing nesting with
  | nil => exact Nat.le_add_right _ _
  | cons node rest ih =>
      have first := take_held piece nesting node
      have others := ih (nesting.take node)
      simp only [everything, allPieces, List.count_append, List.foldl_cons] at others ⊢
      omega

theorem close_all_held (top : OpenBlock) (outer : List OpenBlock) :
    heldIn piece (closeAll top outer).slots = heldBy piece top outer := by
  induction outer generalizing top with
  | nil => rfl
  | cons parent outer ih => rw [closeAll, ih, held_closed]

end Nesting

theorem fold_nodes_held (nodes : List Node) :
    (everything (foldNodes nodes)).count piece ≤ (everything nodes).count piece := by
  have ran := Nesting.run_held piece nodes Nesting.start
  have nothing : Nesting.heldBy piece Nesting.start.top Nesting.start.outer = 0 := rfl
  have closed := Nesting.close_all_held piece (nodes.foldl Nesting.take Nesting.start).top
    (nodes.foldl Nesting.take Nesting.start).outer
  calc (everything (foldNodes nodes)).count piece
      ≤ heldIn piece _ := contents_held piece defaultSlot _
    _ = _ := closed
    _ ≤ (everything nodes).count piece := by rwa [nothing, Nat.zero_add] at ran

end

theorem mem_fold (row : List Piece) (piece : Piece) (member : piece ∈ everything (fold row)) :
    piece ∈ row := by
  have held := fold_nodes_held piece (row.map Piece.node)
  rw [fold_nodes, everything_pieces] at held
  apply List.count_pos_iff.mp
  exact Nat.lt_of_lt_of_le (List.count_pos_iff.mpr member) held

/-- Without continuing tokens, folding drops the closing tokens alone and keeps the order of all
else. Whatever is folded, nothing occurs more often behind than before. -/
theorem fold_keeps_content :
    (∀ row : List Piece, (∀ piece ∈ row, piece.continues = false) →
      flatten (fold row) = row.filter fun piece => !piece.closes) ∧
    (∀ (nodes : List Node) (piece : Piece),
      (everything (foldNodes nodes)).count piece ≤ (everything nodes).count piece) ∧
    ∀ (row : List Piece) (piece : Piece), (everything (fold row)).count piece ≤ row.count piece := by
  refine ⟨flatten_fold, fun nodes piece => fold_nodes_held piece nodes, ?_⟩
  intro row piece
  have held := fold_nodes_held piece (row.map Piece.node)
  rwa [fold_nodes, everything_pieces] at held

/-- Blocks that cross, a closing token without a block, and a block that is left open. -/
def crossedRow : List Piece :=
  let tag (name : String) (position : Position) : Piece := .token ⟨.angle, name, position, "", ""⟩
  [tag "q" .closing, tag "b" .opening, .text "x", tag "i" .opening, tag "b" .closing, .text "y",
    tag "i" .closing, tag "br" .alone]

theorem fold_keeps_content_crossed :
    (∀ piece ∈ crossedRow, piece.continues = false) ∧
      flatten (fold crossedRow) = crossedRow.filter fun piece => !piece.closes :=
  ⟨by decide, fold_keeps_content.1 crossedRow (by decide)⟩

end MarkupTemplate
