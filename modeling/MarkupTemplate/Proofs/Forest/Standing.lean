import MarkupTemplate.Proofs.Forest.Step

/-!
On which level a text stands. In a forest that is the number of tokens around it. What
an open block holds ends up below the blocks that are open around it, so there those
count as well. Main statement: folding never moves a text to another level, and a new
one comes to the level of the innermost open block.
-/

namespace MarkupTemplate

namespace Node

/-- The text stands among the nodes with so many tokens around it. -/
inductive Stands (content : String) : Nat → List Node → Prop
  | here (nodes : List Node) (member : .text content ∈ nodes) : Stands content 0 nodes
  | inside (level : Nat) (token : Token) (slots : List (String × List Node)) (name : String)
      (filled nodes : List Node) (member : .token token slots ∈ nodes)
      (slot : (name, filled) ∈ slots) (below : Stands content level filled) :
      Stands content (level + 1) nodes

variable (content : String)

theorem stands_among (level : Nat) (few nodes : List Node) (within : few ⊆ nodes)
    (stands : Stands content level few) : Stands content level nodes := by
  cases stands with
  | here _ member => exact .here nodes (within member)
  | inside level token slots name filled _ member slot below =>
      exact .inside level token slots name filled nodes (within member) slot below

theorem stands_first (level : Nat) (node : Node) (rest : List Node)
    (stands : Stands content level [node]) : Stands content level (node :: rest) :=
  stands_among content level [node] _ (by simp) stands

theorem stands_later (level : Nat) (node : Node) (rest : List Node)
    (stands : Stands content level rest) : Stands content level (node :: rest) :=
  stands_among content level rest _ (List.subset_cons_self node rest) stands

theorem stands_inside (level : Nat) (token : Token) (inside rest : List Node)
    (stands : Stands content level inside) :
    Stands content (level + 1) (.token token [(defaultSlot, inside)] :: rest) :=
  .inside level token [(defaultSlot, inside)] defaultSlot inside _ List.mem_cons_self
    List.mem_cons_self stands

theorem stands_append (level : Nat) (left right : List Node)
    (stands : Stands content level (left ++ right)) :
    Stands content level left ∨ Stands content level right := by
  cases stands with
  | here _ member =>
      exact (List.mem_append.mp member).imp (.here left) (.here right)
  | inside level token slots name filled _ member slot below =>
      exact (List.mem_append.mp member).imp
        (fun found => .inside level token slots name filled left found slot below)
        (fun found => .inside level token slots name filled right found slot below)

theorem stands_nowhere (level : Nat) : ¬ Stands content level [] := by
  intro stands
  cases stands with
  | here _ member => exact List.not_mem_nil member
  | inside _ _ _ _ _ _ member _ _ => exact List.not_mem_nil member

theorem stands_text (level : Nat) (found : String) (stands : Stands content level [.text found]) :
    found = content ∧ level = 0 := by
  cases stands with
  | here _ member =>
      rw [List.mem_singleton, Node.text.injEq] at member
      exact ⟨member.symm, rfl⟩
  | inside _ _ _ _ _ _ member _ _ => simp at member

theorem stands_token (level : Nat) (token : Token) (slots : List (String × List Node))
    (stands : Stands content level [.token token slots]) :
    ∃ above name filled, level = above + 1 ∧ (name, filled) ∈ slots ∧
      Stands content above filled := by
  cases stands with
  | here _ member => simp at member
  | inside above found own name filled _ member slot below =>
      simp only [List.mem_singleton, Node.token.injEq] at member
      obtain ⟨rfl, rfl⟩ := member
      exact ⟨above, name, filled, rfl, slot, below⟩

end Node

open Node (Stands)

section

variable (content : String)

/-- The text stands on this level in a slot of the block. -/
def OpenBlock.Holds (level : Nat) (block : OpenBlock) : Prop :=
  ∃ name nodes, (name, nodes) ∈ block.slots ∧ Stands content level nodes

namespace OpenBlock

theorem contents_stands (level : Nat) (name : String) (slots : Dict (List Node))
    (stands : Stands content level (contents name slots)) :
    ∃ nodes, (name, nodes) ∈ slots ∧ Stands content level nodes := by
  cases found : Dict.find name slots with
  | none =>
      rw [contents, found] at stands
      exact absurd stands (Node.stands_nowhere content level)
  | some nodes =>
      rw [contents, found] at stands
      exact ⟨nodes, Dict.mem_of_find slots name nodes found, stands⟩

theorem push_holds (level : Nat) (node : Node) (block : OpenBlock)
    (holds : (block.push node).Holds content level) :
    block.Holds content level ∨ Stands content level [node] := by
  obtain ⟨name, nodes, slot, stands⟩ := holds
  rcases Dict.mem_insert _ _ _ _ slot with added | kept
  · cases added
    rcases Node.stands_append content level _ _ stands with before | new
    · obtain ⟨nodes, member, within⟩ := contents_stands content level _ _ before
      exact Or.inl ⟨block.slot, nodes, member, within⟩
    · exact Or.inr new
  · exact Or.inl ⟨name, nodes, kept, stands⟩

theorem turn_holds (level : Nat) (name : String) (block : OpenBlock)
    (holds : (block.turn name).Holds content level) : block.Holds content level := by
  obtain ⟨slot, nodes, member, stands⟩ := holds
  rcases Dict.mem_insert _ _ _ _ member with started | kept
  · cases started
    exact absurd stands (Node.stands_nowhere content level)
  · exact ⟨slot, nodes, kept, stands⟩

theorem start_holds_nothing (level : Nat) (token : Token) :
    ¬ (start token).Holds content level := by
  rintro ⟨name, nodes, slot, stands⟩
  rw [start, List.mem_singleton] at slot
  cases slot
  exact Node.stands_nowhere content level stands

end OpenBlock

namespace Nesting

/-- The text is on this level in one of the open blocks, counted with the blocks around that. -/
def HeldAt (level : Nat) : List OpenBlock → Prop
  | [] => False
  | block :: outer =>
      (∃ below, outer.length + below = level ∧ block.Holds content below) ∨ HeldAt level outer

def Holds (level : Nat) (nesting : Nesting) : Prop :=
  HeldAt content level (nesting.top :: nesting.outer)

theorem start_holds_nothing (level : Nat) : ¬ Nesting.start.Holds content level := by
  rintro (⟨below, _, holds⟩ | nothing)
  · exact OpenBlock.start_holds_nothing content below root holds
  · exact nothing

theorem pushed_holds (level : Nat) (node : Node) (nesting : Nesting)
    (holds : (nesting.push node).Holds content level) :
    nesting.Holds content level ∨
      ∃ below, nesting.outer.length + below = level ∧ Stands content below [node] := by
  rcases holds with ⟨below, counted, inTop⟩ | around
  · rcases OpenBlock.push_holds content below node nesting.top inTop with before | new
    · exact Or.inl (Or.inl ⟨below, counted, before⟩)
    · exact Or.inr ⟨below, counted, new⟩
  · exact Or.inl (Or.inr around)

-- The block that is closed becomes a token of its parent: one more around, one fewer open.
theorem closed_holds (level : Nat) (nesting : Nesting)
    (holds : nesting.closed.Holds content level) : nesting.Holds content level := by
  obtain ⟨top, outer⟩ := nesting
  cases outer with
  | nil => exact holds
  | cons parent outer =>
      rcases pushed_holds content level top.node ⟨parent, outer⟩ holds with before | moved
      · exact Or.inr before
      · obtain ⟨below, counted, stands⟩ := moved
        obtain ⟨above, name, nodes, one, slot, within⟩ :=
          Node.stands_token content below top.token top.slots stands
        have level : (parent :: outer).length + above = level := by
          rw [List.length_cons]
          simp only at counted
          omega
        exact Or.inl ⟨above, level, name, nodes, slot, within⟩

theorem step_holds (level : Nat) (nesting : Nesting) (piece : Piece)
    (holds : (nesting.step piece).Holds content level) :
    nesting.Holds content level ∨ (piece = .text content ∧ nesting.outer.length = level) := by
  have taken : nesting.Taken piece.node (nesting.step piece) := take_taken nesting piece.node
  generalize nesting.step piece = next at holds taken
  cases piece with
  | text found =>
      cases taken with
      | text _ =>
          rcases pushed_holds content level (.text found) nesting holds with before | new
          · exact Or.inl before
          · obtain ⟨below, counted, stands⟩ := new
            obtain ⟨rfl, rfl⟩ := Node.stands_text content below found stands
            exact Or.inr ⟨rfl, counted⟩
  | token found =>
      left
      cases taken with
      | kept _ _ _ =>
          rcases pushed_holds content level (.token found []) nesting holds with before | new
          · exact before
          · obtain ⟨below, _, stands⟩ := new
            obtain ⟨_, _, _, _, slot, _⟩ := Node.stands_token content below found [] stands
            exact absurd slot List.not_mem_nil
      | opened _ _ _ _ =>
          rcases holds with ⟨below, _, inTop⟩ | around
          · exact absurd inTop (OpenBlock.start_holds_nothing content below found)
          · exact around
      | closed _ _ _ _ => exact closed_holds content level nesting holds
      | ignored _ _ _ _ => exact holds
      | turned _ _ _ =>
          rcases holds with ⟨below, counted, inTop⟩ | around
          · exact Or.inl ⟨below, counted,
              OpenBlock.turn_holds content below found.name nesting.top inTop⟩
          · exact Or.inr around

theorem close_all_holds (level : Nat) (top : OpenBlock) (outer : List OpenBlock)
    (holds : (closeAll top outer).Holds content level) :
    HeldAt content level (top :: outer) := by
  induction outer generalizing top with
  | nil => exact Or.inl ⟨level, Nat.zero_add level, holds⟩
  | cons parent outer ih =>
      exact closed_holds content level ⟨top, parent :: outer⟩ (ih (parent.push top.node) holds)

theorem finish_holds (level : Nat) (nesting : Nesting)
    (stands : Stands content level nesting.finish) : nesting.Holds content level := by
  obtain ⟨nodes, slot, within⟩ := OpenBlock.contents_stands content level _ _ stands
  exact close_all_holds content level nesting.top nesting.outer ⟨defaultSlot, nodes, slot, within⟩

end Nesting

end

end MarkupTemplate
