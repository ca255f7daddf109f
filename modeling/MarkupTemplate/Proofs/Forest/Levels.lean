import MarkupTemplate.Proofs.Forest.Step

/-!
How deep a forest goes. Every text and every token on a way down counts as one level. What an
open block holds ends up below the blocks around it, so the levels in it and the number of blocks
around it are bounded together. Main statement: folding keeps this bound with every piece that it
takes, so no forest is deeper than the greatest depth.
-/

namespace MarkupTemplate

namespace Node

mutual

/-- How many nodes stand on the longest way down, this one included. -/
def levels : Node → Nat
  | .text _ => 1
  | .token _ slots => slotsLevels slots + 1

def allLevels : List Node → Nat
  | [] => 0
  | node :: rest => max node.levels (allLevels rest)

def slotsLevels : List (String × List Node) → Nat
  | [] => 0
  | (_, nodes) :: rest => max (allLevels nodes) (slotsLevels rest)

end

theorem all_levels_push (nodes : List Node) (node : Node) :
    allLevels (nodes ++ [node]) = max (allLevels nodes) node.levels := by
  induction nodes with
  | nil => simp only [List.nil_append, allLevels, Nat.zero_max, Nat.max_zero]
  | cons first rest ih => rw [List.cons_append, allLevels, ih, allLevels, Nat.max_assoc]

theorem contents_levels (name : String) (slots : Dict (List Node)) :
    allLevels (OpenBlock.contents name slots) ≤ slotsLevels slots := by
  induction slots with
  | nil => exact Nat.le_refl _
  | cons slot rest ih =>
      obtain ⟨present, nodes⟩ := slot
      rw [OpenBlock.contents] at ih ⊢
      by_cases same : present = name
      · rw [Dict.find, if_pos same]
        exact Nat.le_max_left _ _
      · rw [Dict.find, if_neg same]
        exact Nat.le_trans ih (Nat.le_max_right _ _)

theorem insert_levels (name : String) (nodes : List Node) (slots : Dict (List Node)) :
    slotsLevels (Dict.insert name nodes slots) ≤ max (slotsLevels slots) (allLevels nodes) := by
  induction slots with
  | nil =>
      simp only [Dict.insert, slotsLevels, Nat.max_zero, Nat.zero_max]
      exact Nat.le_refl _
  | cons slot rest ih =>
      obtain ⟨present, held⟩ := slot
      by_cases same : present = name
      · rw [Dict.insert, if_pos same, slotsLevels, slotsLevels]
        omega
      · rw [Dict.insert, if_neg same, slotsLevels, slotsLevels]
        omega

end Node

open Node (allLevels slotsLevels)

theorem push_levels (node : Node) (block : OpenBlock) :
    slotsLevels (block.push node).slots ≤ max (slotsLevels block.slots) node.levels := by
  have grown := Node.insert_levels block.slot
    (OpenBlock.contents block.slot block.slots ++ [node]) block.slots
  have held := Node.contents_levels block.slot block.slots
  rw [Node.all_levels_push] at grown
  change slotsLevels (Dict.insert block.slot _ block.slots) ≤ _
  omega

-- A slot that is started anew holds nothing.
theorem turn_levels (name : String) (block : OpenBlock) :
    slotsLevels (block.turn name).slots ≤ slotsLevels block.slots := by
  have started := Node.insert_levels name [] block.slots
  rwa [allLevels, Nat.max_zero] at started

namespace Nesting

/-- The levels in each open block, and the blocks around it, are at most the greatest depth. -/
def Fits : List OpenBlock → Prop
  | [] => True
  | block :: outer => slotsLevels block.slots + outer.length ≤ maxDepth ∧ Fits outer

/-- What is open fits, and so does one more node in the innermost block. -/
structure Shallow (nesting : Nesting) : Prop where
  room : nesting.depth ≤ maxDepth
  fits : Fits (nesting.top :: nesting.outer)

theorem shallow_start : Nesting.start.Shallow := by
  constructor
  · decide
  · exact ⟨by decide, trivial⟩

theorem fits_push (top : OpenBlock) (outer : List OpenBlock) (node : Node)
    (fits : Fits (top :: outer)) (room : node.levels + outer.length ≤ maxDepth) :
    Fits (top.push node :: outer) := by
  constructor
  · have grown := push_levels node top
    have held := fits.1
    omega
  · exact fits.2

-- A piece is a node of one level, wherever it goes.
theorem shallow_push (nesting : Nesting) (node : Node) (shallow : nesting.Shallow)
    (leaf : node.levels = 1) : (nesting.push node).Shallow := by
  constructor
  · exact shallow.room
  · apply fits_push nesting.top nesting.outer node shallow.fits
    have room := shallow.room
    rw [depth] at room
    omega

theorem shallow_opened (nesting : Nesting) (token : Token) (shallow : nesting.Shallow)
    (room : nesting.depth < maxDepth) : (nesting.opened token).Shallow := by
  constructor
  · exact room
  · constructor
    · change 0 + nesting.depth ≤ maxDepth
      omega
    · exact shallow.fits

-- The block that is closed gets one level deeper, and has one block fewer around it.
theorem fits_closed (top parent : OpenBlock) (outer : List OpenBlock)
    (fits : Fits (top :: parent :: outer)) : Fits (parent.push top.node :: outer) := by
  apply fits_push parent outer top.node fits.2
  have held := fits.1
  rw [List.length_cons] at held
  rw [OpenBlock.node, Node.levels]
  omega

theorem shallow_closed (nesting : Nesting) (shallow : nesting.Shallow) :
    nesting.closed.Shallow := by
  obtain ⟨top, outer⟩ := nesting
  cases outer with
  | nil => exact shallow
  | cons parent outer =>
      constructor
      · exact Nat.le_of_succ_le shallow.room
      · exact fits_closed top parent outer shallow.fits

theorem shallow_turned (nesting : Nesting) (name : String) (shallow : nesting.Shallow) :
    Shallow { nesting with top := nesting.top.turn name } := by
  constructor
  · exact shallow.room
  · constructor
    · have less := turn_levels name nesting.top
      exact Nat.le_trans (Nat.add_le_add_right less _) shallow.fits.1
    · exact shallow.fits.2

theorem step_shallow (nesting : Nesting) (piece : Piece) (shallow : nesting.Shallow) :
    (nesting.step piece).Shallow := by
  have leaf : piece.node.levels = 1 := by cases piece <;> rfl
  have taken : nesting.Taken piece.node (nesting.step piece) := take_taken nesting piece.node
  generalize piece.node = node, nesting.step piece = next at leaf taken
  cases taken with
  | text content => exact shallow_push nesting _ shallow leaf
  | kept token slots _ => exact shallow_push nesting _ shallow leaf
  | opened token _ _ room => exact shallow_opened nesting token shallow room
  | closed _ _ _ _ => exact shallow_closed nesting shallow
  | ignored _ _ _ _ => exact shallow
  | turned token _ _ => exact shallow_turned nesting token.name shallow

theorem run_shallow (pieces : List Piece) (nesting : Nesting) (shallow : nesting.Shallow) :
    (pieces.foldl step nesting).Shallow := by
  induction pieces generalizing nesting with
  | nil => exact shallow
  | cons piece rest ih => exact ih (nesting.step piece) (step_shallow nesting piece shallow)

theorem close_all_levels (top : OpenBlock) (outer : List OpenBlock) (fits : Fits (top :: outer)) :
    slotsLevels (closeAll top outer).slots ≤ maxDepth := by
  induction outer generalizing top with
  | nil => exact fits.1
  | cons parent outer ih =>
      rw [closeAll]
      exact ih (parent.push top.node) (fits_closed top parent outer fits)

end Nesting

/-- Whatever pieces it is folded from, a forest is at most as deep as the greatest depth. -/
theorem fold_levels (pieces : List Piece) : allLevels (fold pieces) ≤ maxDepth := by
  have shallow := Nesting.run_shallow pieces .start Nesting.shallow_start
  have closed := Nesting.close_all_levels _ _ shallow.fits
  exact Nat.le_trans (Node.contents_levels defaultSlot _) closed

end MarkupTemplate
