import MarkupTemplate.Dict
import MarkupTemplate.Token.Basic

/-!
Folding a row of pieces into a forest. An opening token collects what follows
into its slots until the token that closes it; a continuing token starts another
slot of the innermost open block. A closing token that does not name that block is
ignored, and the end of the row closes every block. Where a block would reach the
greatest depth its token is kept without slots, so a forest is never deep.
-/

namespace MarkupTemplate

inductive Node where
  | text (content : String)
  | token (token : Token) (slots : List (String × List Node))

/-- A piece as a node; a token has no slots yet. -/
@[simp] def Piece.node : Piece → Node
  | .text content => .text content
  | .token found => .token found []

def maxDepth : Nat := 256

/-- A block that is still open, and the slot that it is filling. -/
structure OpenBlock where
  token : Token
  slots : Dict (List Node)
  slot : String

namespace OpenBlock

def start (token : Token) : OpenBlock := ⟨token, [(defaultSlot, [])], defaultSlot⟩

/-- The nodes of a slot, none where the block does not have it. -/
def contents (name : String) (slots : Dict (List Node)) : List Node :=
  (Dict.find name slots).getD []

def push (node : Node) (block : OpenBlock) : OpenBlock :=
  let filled := contents block.slot block.slots ++ [node]
  { block with slots := Dict.insert block.slot filled block.slots }

/-- Goes on with a slot of the given name, which starts empty. -/
def turn (name : String) (block : OpenBlock) : OpenBlock :=
  { block with slots := Dict.insert name [] block.slots, slot := name }

def node (block : OpenBlock) : Node := .token block.token block.slots

end OpenBlock

/-- The open blocks: the innermost one, and those around it from the inside out. -/
structure Nesting where
  top : OpenBlock
  outer : List OpenBlock

namespace Nesting

def root : Token := ⟨.angle, anonymousName, .opening, "", ""⟩

def start : Nesting := ⟨.start root, []⟩

def depth (nesting : Nesting) : Nat := nesting.outer.length + 1

def push (node : Node) (nesting : Nesting) : Nesting :=
  { nesting with top := nesting.top.push node }

def opened (token : Token) (nesting : Nesting) : Nesting :=
  ⟨.start token, nesting.top :: nesting.outer⟩

/-- Closes the innermost block. The outermost one stays open. -/
def closed (nesting : Nesting) : Nesting :=
  match nesting.outer with
  | [] => nesting
  | parent :: outer => ⟨parent.push nesting.top.node, outer⟩

/-- Takes the next node. A token may have slots already, and keeps them where it is kept as it
is. -/
@[simp] def take (nesting : Nesting) : Node → Nesting
  | .text content => nesting.push (.text content)
  | .token token slots =>
      match token.position with
      | .closing => if nesting.top.token.name = token.name then nesting.closed else nesting
      | .continuing => { nesting with top := nesting.top.turn token.name }
      | .opening =>
          if nesting.depth < maxDepth then nesting.opened token
          else nesting.push (.token token slots)
      | .alone => nesting.push (.token token slots)

def step (nesting : Nesting) (piece : Piece) : Nesting := nesting.take piece.node

/-- Closes blocks from the inside out, and gives the outermost one. -/
def closeAll (top : OpenBlock) : List OpenBlock → OpenBlock
  | [] => top
  | parent :: outer => closeAll (parent.push top.node) outer

def finish (nesting : Nesting) : List Node :=
  OpenBlock.contents defaultSlot (closeAll nesting.top nesting.outer).slots

end Nesting

/-- The forest of a row of nodes. -/
def foldNodes (nodes : List Node) : List Node := (nodes.foldl Nesting.take .start).finish

/-- The forest of a row of pieces. -/
def fold (pieces : List Piece) : List Node := (pieces.foldl Nesting.step .start).finish

theorem fold_nodes (pieces : List Piece) : foldNodes (pieces.map Piece.node) = fold pieces := by
  rw [foldNodes, List.foldl_map]
  rfl

end MarkupTemplate
