import MarkupTemplate.Proofs.Forest.Building

/-!
Writing a forest as a row of pieces. A block is written as its token, what is in
its default slot, a continuing token and the contents for every further slot, and
a closing token. Which tokens continue and close a block is left open, apart from
their positions and names. Main statement: folding such a row gives the forest
back, however its blocks stand inside each other, as long as no block reaches the
greatest depth.
-/

namespace MarkupTemplate

/-- The tokens that start the further slots of a block and that close it. -/
structure BlockMarks where
  continuing : Token → String → Token
  closing : Token → Token
  continues : ∀ block slot, (continuing block slot).position = .continuing
  continuing_name : ∀ block slot, (continuing block slot).name = slot
  closes : ∀ block, (closing block).position = .closing
  closing_name : ∀ block, (closing block).name = block.name

namespace Node

mutual

/-- A token without slots stands alone. An opening one has the default slot first, and no slot
twice. -/
def WellFormed : Node → Prop
  | .text _ => True
  | .token block slots =>
      (slots = [] ∧ block.position = .alone) ∨
        (block.position = .opening ∧ (Dict.keys slots).head? = some defaultSlot ∧
          Dict.Distinct slots ∧ SlotsWellFormed slots)

def AllWellFormed : List Node → Prop
  | [] => True
  | node :: rest => node.WellFormed ∧ AllWellFormed rest

def SlotsWellFormed : List (String × List Node) → Prop
  | [] => True
  | (_, nodes) :: rest => AllWellFormed nodes ∧ SlotsWellFormed rest

end

mutual

/-- How many blocks stand inside each other. -/
def depth : Node → Nat
  | .text _ => 0
  | .token _ [] => 0
  | .token _ ((_, nodes) :: further) => max (allDepth nodes) (slotsDepth further) + 1

def allDepth : List Node → Nat
  | [] => 0
  | node :: rest => max node.depth (allDepth rest)

def slotsDepth : List (String × List Node) → Nat
  | [] => 0
  | (_, nodes) :: rest => max (allDepth nodes) (slotsDepth rest)

end

mutual

def linear (marks : BlockMarks) : Node → List Piece
  | .text content => [.text content]
  | .token block [] => [.token block]
  | .token block ((_, nodes) :: further) =>
      .token block :: (allLinear marks nodes ++ slotsLinear marks block further) ++
        [.token (marks.closing block)]

def allLinear (marks : BlockMarks) : List Node → List Piece
  | [] => []
  | node :: rest => node.linear marks ++ allLinear marks rest

/-- The slots of a block behind its default slot. -/
def slotsLinear (marks : BlockMarks) (block : Token) : List (String × List Node) → List Piece
  | [] => []
  | (slot, nodes) :: rest =>
      .token (marks.continuing block slot) :: allLinear marks nodes ++ slotsLinear marks block rest

end

mutual

theorem linear_builds (marks : BlockMarks) (node : Node) (formed : node.WellFormed) :
    Builds node.depth (node.linear marks) [node] := by
  cases node with
  | text content =>
      rw [linear]
      exact builds_text _ content
  | token block slots =>
      cases slots with
      | nil =>
          rcases formed with ⟨_, alone⟩ | ⟨_, first, _⟩
          · exact builds_alone _ block alone
          · cases first
      | cons slot further =>
          obtain ⟨name, nodes⟩ := slot
          rcases formed with ⟨none, _⟩ | ⟨opens, first, distinct, nodesFormed, furtherFormed⟩
          · cases none
          · have default : name = defaultSlot := by simpa [Dict.keys] using first
            subst default
            have inside := builds_more _ (max (allDepth nodes) (slotsDepth further)) _ _
              (all_linear_builds marks nodes nodesFormed) (Nat.le_max_left _ _)
            obtain ⟨last, slots⟩ := slots_linear_run marks block further furtherFormed
              [(defaultSlot, nodes)] defaultSlot distinct
            have behind := runs_more _ (max (allDepth nodes) (slotsDepth further)) _ _ _ slots
              (Nat.le_max_right _ _)
            have filled := runs_append _ _ _ _ _ _ (runs_default _ block _ nodes inside) behind
            exact builds_block _ block (marks.closing block) _ _ last opens (marks.closes block)
              (marks.closing_name block) filled

theorem all_linear_builds (marks : BlockMarks) (nodes : List Node) (formed : AllWellFormed nodes) :
    Builds (allDepth nodes) (allLinear marks nodes) nodes := by
  cases nodes with
  | nil => exact builds_nil _
  | cons node rest =>
      have first := builds_more _ (max node.depth (allDepth rest)) _ _
        (linear_builds marks node formed.1) (Nat.le_max_left _ _)
      have others := builds_more _ (max node.depth (allDepth rest)) _ _
        (all_linear_builds marks rest formed.2) (Nat.le_max_right _ _)
      exact builds_append _ _ _ _ _ first others

-- Every further slot is new to the block, so it goes behind those that the block has.
theorem slots_linear_run (marks : BlockMarks) (block : Token) (slots : List (String × List Node))
    (formed : SlotsWellFormed slots) (before : Dict (List Node)) (slot : String)
    (distinct : Dict.Distinct (before ++ slots)) :
    ∃ last, Runs (slotsDepth slots) (slotsLinear marks block slots) ⟨block, before, slot⟩
      ⟨block, before ++ slots, last⟩ := by
  cases slots with
  | nil =>
      refine ⟨slot, ?_⟩
      intro outer _
      simp [slotsLinear]
  | cons next rest =>
      obtain ⟨name, nodes⟩ := next
      have fresh : name ∉ Dict.keys before := by
        intro member
        simp only [Dict.Distinct, Dict.keys, List.map_append, List.map_cons] at distinct
        exact (List.nodup_append.mp distinct).2.2 name member name List.mem_cons_self rfl
      have named := marks.continuing_name block name
      have inside := builds_more _ (max (allDepth nodes) (slotsDepth rest)) _ _
        (all_linear_builds marks nodes formed.1) (Nat.le_max_left _ _)
      have turned := runs_slot _ block (marks.continuing block name) slot before _ nodes
        (marks.continues block name) (by rwa [named]) inside
      rw [named] at turned
      obtain ⟨last, others⟩ := slots_linear_run marks block rest formed.2
        (before ++ [(name, nodes)]) name (by simpa using distinct)
      have behind := runs_more _ (max (allDepth nodes) (slotsDepth rest)) _ _ _ others
        (Nat.le_max_right _ _)
      refine ⟨last, ?_⟩
      simpa [slotsLinear, slotsDepth] using runs_append _ _ _ _ _ _ turned behind

end

/-- Folding the row that a forest is written as gives the forest. -/
theorem fold_all_linear (marks : BlockMarks) (forest : List Node) (formed : AllWellFormed forest)
    (shallow : allDepth forest ≤ maxDepth - 1) : fold (allLinear marks forest) = forest := by
  have room : allDepth forest < maxDepth := Nat.lt_of_le_of_lt shallow (by decide)
  exact fold_builds (allDepth forest) _ forest (all_linear_builds marks forest formed) room

/-- Marks with nothing but their positions and names. -/
def bareMarks : BlockMarks where
  continuing _ slot := ⟨.curly, slot, .continuing, "", ""⟩
  closing block := ⟨block.bracket, block.name, .closing, "", ""⟩
  continues _ _ := rfl
  continuing_name _ _ := rfl
  closes _ := rfl
  closing_name _ := rfl

/-- A condition in either slot of which stands a condition of its own. -/
def sampleChoice : Node :=
  let condition : Token := ⟨.curly, "if", .opening, "\x7b#if a\x7d", " a"⟩
  let inner : Node := .token condition [(defaultSlot, [.text "b"])]
  .token condition [(defaultSlot, [inner, .text "c"]), ("else", []), ("more", [inner])]

theorem fold_all_linear_choice :
    AllWellFormed [.text "x", sampleChoice] ∧
      allDepth [.text "x", sampleChoice] ≤ maxDepth - 1 ∧
      fold (allLinear bareMarks [.text "x", sampleChoice]) = [.text "x", sampleChoice] := by
  have formed : AllWellFormed [.text "x", sampleChoice] := by
    simp [AllWellFormed, WellFormed, SlotsWellFormed, sampleChoice, Dict.keys, Dict.Distinct,
      defaultSlot]
  have shallow : allDepth [.text "x", sampleChoice] ≤ maxDepth - 1 := by decide
  exact ⟨formed, shallow, fold_all_linear bareMarks _ formed shallow⟩

end Node

end MarkupTemplate
