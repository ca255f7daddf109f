import Mathlib.Data.Set.Finite.Basic
import MarkupTemplate.Proofs.Forest.Apart
import MarkupTemplate.Proofs.Forest.Standing

/-!
Where crowded blocks lose what stands in them. The rows of whole blocks leave no block
open, and where a block of the same name is lost in one on the last level, its closing
token closes the block around it. What follows there goes one level up. Main
statement: every node that a level is left for stays in its block, whatever texts are
added to the forest, exactly where the blocks on the last level are apart from those in
them.
-/

namespace MarkupTemplate

namespace Nesting

/-- The tokens of the open blocks, from the inside out. -/
def tokens (nesting : Nesting) : List Token :=
  nesting.top.token :: nesting.outer.map OpenBlock.token

theorem tokens_length (nesting : Nesting) : nesting.tokens.length = nesting.depth := by
  simp [tokens, depth]

theorem depth_le (after before : Nesting) (fewer : after.tokens <:+ before.tokens) :
    after.depth ≤ before.depth := by
  rw [← tokens_length, ← tokens_length]
  exact fewer.length_le

theorem opening_tokens (nesting : Nesting) (token : Token) (opens : token.position = .opening) :
    (nesting.depth < maxDepth ∧
        (nesting.step (.token token)).tokens = token :: nesting.tokens) ∨
      (maxDepth ≤ nesting.depth ∧ (nesting.step (.token token)).tokens = nesting.tokens) := by
  by_cases room : nesting.depth < maxDepth
  · left
    exact ⟨room, by simp [step, opens, room, opened, tokens, OpenBlock.start]⟩
  · right
    exact ⟨Nat.le_of_not_lt room, by simp [step, opens, room, push, tokens, OpenBlock.push]⟩

theorem full_tokens (nesting : Nesting) (token : Token) (opens : token.position = .opening)
    (full : maxDepth ≤ nesting.tokens.length) :
    (nesting.step (.token token)).tokens = nesting.tokens := by
  rw [tokens_length] at full
  rcases opening_tokens nesting token opens with ⟨room, _⟩ | ⟨_, kept⟩
  · exact absurd room (Nat.not_lt.mpr full)
  · exact kept

theorem alone_tokens (nesting : Nesting) (token : Token) (stands : token.position = .alone) :
    (nesting.step (.token token)).tokens = nesting.tokens := by
  simp [step, stands, push, tokens, OpenBlock.push]

theorem closed_tokens (nesting : Nesting) : nesting.closed.tokens <:+ nesting.tokens := by
  obtain ⟨top, outer⟩ := nesting
  cases outer with
  | nil => exact List.suffix_refl _
  | cons parent outer => exact List.suffix_cons _ _

theorem closing_tokens (nesting : Nesting) (token : Token) (closes : token.position = .closing) :
    (nesting.step (.token token)).tokens <:+ nesting.tokens := by
  by_cases same : nesting.top.token.name = token.name
  · have closed : nesting.step (.token token) = nesting.closed := by simp [step, closes, same]
    rw [closed]
    exact closed_tokens nesting
  · have ignored : nesting.step (.token token) = nesting := by simp [step, closes, same]
    rw [ignored]

-- The outermost block is not closed, so there has to be one around.
theorem named_tokens (nesting : Nesting) (token first second : Token) (more : List Token)
    (closes : token.position = .closing) (stack : nesting.tokens = first :: second :: more)
    (same : first.name = token.name) :
    (nesting.step (.token token)).tokens = second :: more := by
  obtain ⟨top, outer⟩ := nesting
  cases outer with
  | nil => simp [tokens] at stack
  | cons parent outer =>
      simp only [tokens, List.map_cons, List.cons.injEq] at stack
      obtain ⟨rfl, rfl, rfl⟩ := stack
      simp [step, closes, same, closed, tokens, OpenBlock.push]

end Nesting

open Nesting

namespace Node

/-- Behind the row no block is open but those that were open before, from some one outwards. -/
def Closes (row : List Piece) : Prop :=
  ∀ nesting : Nesting, (row.foldl step nesting).tokens <:+ nesting.tokens

theorem block_closes (token closing : Token) (inside : List Piece)
    (opens : token.position = .opening) (closes : closing.position = .closing)
    (same : closing.name = token.name) (within : Closes inside) (nesting : Nesting) :
    ((inside.foldl step (nesting.step (.token token))).step (.token closing)).tokens <:+
      nesting.tokens := by
  have filled := within (nesting.step (.token token))
  have behind := closing_tokens (inside.foldl step (nesting.step (.token token))) closing closes
  rcases opening_tokens nesting token opens with ⟨_, opened⟩ | ⟨_, full⟩
  · rw [opened] at filled
    rcases List.suffix_cons_iff.mp filled with still | fewer
    · rw [named_tokens _ closing token nesting.top.token _ closes still same.symm]
      exact List.suffix_refl _
    · exact behind.trans fewer
  · rw [full] at filled
    exact behind.trans filled

theorem run_closes (marks : BlockMarks) (nodes : List Node) (blocks : Blocks nodes) :
    Closes (allLinear marks nodes) := by
  induction blocks with
  | nil => exact fun nesting => List.suffix_refl nesting.tokens
  | text content rest _ ih => exact fun nesting => ih (nesting.step (.text content))
  | alone token rest stands _ ih =>
      intro nesting
      have behind := ih (nesting.step (.token token))
      rw [alone_tokens nesting token stands] at behind
      rwa [all_linear_alone]
  | block token inside rest opens _ _ ihInside ihRest =>
      intro nesting
      have block := block_closes token (marks.closing token) (allLinear marks inside) opens
        (marks.closes token) (marks.closing_name token) ihInside nesting
      rw [all_linear_block, List.foldl_cons, List.foldl_append, List.foldl_cons]
      exact (ihRest _).trans block

-- A block for which no level is left is not opened, and its closing token closes the block around
-- it if that has its name.
theorem run_crowded (marks : BlockMarks) (name : String) (nodes : List Node)
    (blocks : Blocks nodes) (crowded : ¬ Without name nodes) (nesting : Nesting)
    (first second : Token) (more : List Token) (stack : nesting.tokens = first :: second :: more)
    (full : maxDepth ≤ more.length + 2) (named : first.name = name) :
    ((allLinear marks nodes).foldl step nesting).tokens <:+ second :: more := by
  induction blocks generalizing nesting with
  | nil => exact absurd .nil crowded
  | text content rest _ ih =>
      have further : ¬ Without name rest := fun without => crowded (.text content rest without)
      exact ih further (nesting.step (.text content)) stack
  | alone token rest stands _ ih =>
      have further : ¬ Without name rest := fun without => crowded (.alone token rest without)
      rw [all_linear_alone]
      exact ih further (nesting.step (.token token))
        ((alone_tokens nesting token stands).trans stack)
  | block token inside rest opens within behind ihInside ihRest =>
      have opened : (nesting.step (.token token)).tokens = first :: second :: more := by
        rw [full_tokens nesting token opens (stack ▸ full), stack]
      rw [all_linear_block, List.foldl_cons, List.foldl_append, List.foldl_cons]
      have filled := run_closes marks inside within (nesting.step (.token token))
      rw [opened] at filled
      generalize inner : (allLinear marks inside).foldl step (nesting.step (.token token)) = next
        at filled
      have closed := closing_tokens next (marks.closing token) (marks.closes token)
      have others := run_closes marks rest behind (next.step (.token (marks.closing token)))
      -- It is enough that the block around is closed by then.
      rcases List.suffix_cons_iff.mp filled with still | fewer
      · by_cases free : Without name inside
        · by_cases same : token.name = name
          · have own : first.name = (marks.closing token).name := by
              rw [marks.closing_name, named, same]
            rw [named_tokens next _ first second more (marks.closes token) still own] at others
            exact others
          · have further : ¬ Without name rest :=
              fun without => crowded (.block token inside rest same free without)
            rw [still] at closed
            rcases List.suffix_cons_iff.mp closed with same | fewer
            · exact ihRest further _ same
            · exact others.trans fewer
        · have lost := ihInside free (nesting.step (.token token)) opened
          rw [inner] at lost
          exact others.trans (closed.trans lost)
      · exact others.trans (closed.trans fewer)

section

variable (content : String)

theorem keeps_stands (room : Nat) (nodes held : List Node) (keeps : Keeps room nodes held)
    (level : Nat) (within : level ≤ room) (stands : Stands content level nodes) :
    Stands content level held := by
  induction keeps generalizing level with
  | nil room => exact stands
  | more room nodes node held _ ih =>
      exact stands_later content level node held (ih level within stands)
  | text room found rest held _ ih =>
      rcases stands_append content level [.text found] rest stands with here | further
      · exact stands_first content level (.text found) held here
      · exact stands_later content level (.text found) held (ih level within further)
  | alone room token rest held _ ih =>
      rcases stands_append content level [.token token []] rest stands with here | further
      · exact stands_first content level (.token token []) held here
      · exact stands_later content level (.token token []) held (ih level within further)
  | block room token inside filled rest held _ _ ihInside ihRest =>
      rcases stands_append content level [.token token _] rest stands with here | further
      · obtain ⟨above, name, nodes, rfl, slot, deeper⟩ := stands_token content level token _ here
        rw [List.mem_singleton] at slot
        cases slot
        have kept := ihInside above (by omega) deeper
        exact stands_inside content above token filled held kept
      · exact stands_later content level _ held (ihRest level within further)
  | deepest token inside rest slots held _ ih =>
      rcases stands_append content level [.token token _] rest stands with here | further
      · obtain ⟨above, _, _, rfl, _, _⟩ := stands_token content level token _ here
        omega
      · exact stands_later content level _ held (ih level within further)

theorem run_holds (level : Nat) (row : List Piece) (fresh : .text content ∉ row)
    (nesting : Nesting) (holds : (row.foldl step nesting).Holds content level) :
    nesting.Holds content level := by
  induction row generalizing nesting with
  | nil => exact holds
  | cons piece rest ih =>
      rw [List.mem_cons, not_or] at fresh
      rcases step_holds content level nesting piece (ih fresh.2 (nesting.step piece) holds)
        with before | ⟨own, _⟩
      · exact before
      · exact absurd own.symm fresh.1

/-- The row brings the text nowhere on the last level, if `room` more levels fit. -/
def Misses (room : Nat) (row : List Piece) : Prop :=
  ∀ nesting : Nesting, nesting.depth + room ≤ maxDepth →
    ¬ nesting.Holds content (maxDepth - 1) → ¬ (row.foldl step nesting).Holds content (maxDepth - 1)

theorem misses_behind (marks : BlockMarks) (room : Nat) (node : Node) (rest : List Node)
    (single : Blocks [node]) (fresh : .text content ∉ node.linear marks)
    (misses : Misses content room (allLinear marks rest)) :
    Misses content room (allLinear marks (node :: rest)) := by
  intro nesting fits free
  have fewer := depth_le _ _ (run_closes marks [node] single nesting)
  have row : allLinear marks [node] = node.linear marks := List.append_nil _
  rw [row] at fewer
  rw [allLinear, List.foldl_append]
  apply misses _ (by omega)
  intro holds
  exact free (run_holds content _ _ fresh nesting holds)

theorem opening_misses (room : Nat) (nesting : Nesting) (token : Token)
    (opens : token.position = .opening) (fits : nesting.depth + (room + 1) ≤ maxDepth)
    (free : ¬ nesting.Holds content (maxDepth - 1)) :
    (nesting.step (.token token)).tokens = token :: nesting.tokens ∧
      (nesting.step (.token token)).depth + room ≤ maxDepth ∧
      ¬ (nesting.step (.token token)).Holds content (maxDepth - 1) := by
  have opened : (nesting.step (.token token)).tokens = token :: nesting.tokens := by
    rcases opening_tokens nesting token opens with ⟨_, opened⟩ | ⟨full, _⟩
    · exact opened
    · omega
  have depth := tokens_length (nesting.step (.token token))
  rw [opened, List.length_cons, tokens_length] at depth
  refine ⟨opened, by omega, ?_⟩
  intro holds
  rcases step_holds content _ nesting _ holds with before | ⟨text, _⟩
  · exact free before
  · cases text

theorem misses_inside (room : Nat) (token closing : Token) (inside rest : List Piece)
    (opens : token.position = .opening) (fresh : .text content ∉ rest)
    (misses : Misses content room inside) :
    Misses content (room + 1) (.token token :: (inside ++ .token closing :: rest)) := by
  intro nesting fits free holds
  obtain ⟨_, room, none⟩ := opening_misses content room nesting token opens fits free
  rw [List.foldl_cons, List.foldl_append] at holds
  have later : Piece.text content ∉ Piece.token closing :: rest := by simpa using fresh
  exact misses _ room none (run_holds content _ _ later _ holds)

theorem all_linear_last (marks : BlockMarks) (nodes : List Node) :
    allLinear marks (nodes ++ [.text content]) = allLinear marks nodes ++ [.text content] := by
  induction nodes with
  | nil => rfl
  | cons node rest ih => rw [List.cons_append, allLinear, ih, allLinear, List.append_assoc]

-- The block on the last level is closed before the text comes.
theorem crowded_lower (marks : BlockMarks) (token : Token) (nodes : List Node)
    (blocks : Blocks nodes) (crowded : ¬ Without token.name nodes) (nesting around : Nesting)
    (opened : nesting.tokens = token :: around.tokens) (room : nesting.depth ≤ maxDepth) :
    ((allLinear marks nodes).foldl step nesting).depth < maxDepth := by
  by_cases full : maxDepth ≤ nesting.depth
  · have depth := tokens_length nesting
    rw [opened, tokens, List.length_cons, List.length_cons] at depth
    have lost := run_crowded marks token.name nodes blocks crowded nesting token around.top.token
      (around.outer.map OpenBlock.token) opened (by omega) rfl
    have fewer := lost.length_le
    rw [tokens_length, List.length_cons] at fewer
    omega
  · have fewer := depth_le _ _ (run_closes marks nodes blocks nesting)
    omega

theorem misses_crowded (marks : BlockMarks) (token : Token) (inside rest : List Node)
    (opens : token.position = .opening) (blocks : Blocks inside)
    (crowded : ¬ Without token.name inside) (fresh : .text content ∉ allLinear marks inside)
    (later : .text content ∉ allLinear marks rest) :
    Misses content 1
      (allLinear marks (.token token [(defaultSlot, inside ++ [.text content])] :: rest)) := by
  intro nesting fits free holds
  obtain ⟨opened, room, none⟩ := opening_misses content 0 nesting token opens fits free
  rw [all_linear_block, all_linear_last, List.foldl_cons, List.append_assoc, List.foldl_append,
    List.cons_append, List.foldl_cons] at holds
  have behind : Piece.text content ∉
      [] ++ Piece.token (marks.closing token) :: allLinear marks rest := by simpa using later
  have placed := run_holds content _ _ behind _ holds
  rcases step_holds content _ _ _ placed with before | ⟨_, last⟩
  · exact none (run_holds content _ _ fresh _ before)
  · have lower := crowded_lower marks token inside blocks crowded _ nesting opened room
    rw [Nesting.depth, last] at lower
    exact absurd lower (by decide)

/-- The text can be added so that it comes to the last level in the forest, but not in what the
forest is folded to. -/
def Loses (marks : BlockMarks) (room : Nat) (nodes : List Node) : Prop :=
  ∃ fuller, Fuller nodes fuller ∧ Stands content room fuller ∧
    Misses content room (allLinear marks fuller)

theorem loses_behind (marks : BlockMarks) (room : Nat) (node : Node) (rest : List Node)
    (single : Blocks [node]) (fresh : .text content ∉ node.linear marks)
    (loses : Loses content marks room rest) : Loses content marks room (node :: rest) := by
  obtain ⟨fuller, more, stands, misses⟩ := loses
  refine ⟨node :: fuller, .same node rest fuller more, ?_, ?_⟩
  · exact stands_later content room node fuller stands
  · exact misses_behind content marks room node fuller single fresh misses

theorem loses_inside (marks : BlockMarks) (room : Nat) (token : Token) (inside rest : List Node)
    (opens : token.position = .opening) (fresh : .text content ∉ allLinear marks rest)
    (loses : Loses content marks room inside) :
    Loses content marks (room + 1) (.token token [(defaultSlot, inside)] :: rest) := by
  obtain ⟨filled, more, stands, misses⟩ := loses
  refine ⟨.token token [(defaultSlot, filled)] :: rest,
    .block token inside filled rest rest more (fuller_refl rest),
    stands_inside content room token filled rest stands, ?_⟩
  rw [all_linear_block]
  exact misses_inside content room token (marks.closing token) _ _ opens fresh misses

theorem loses_last (marks : BlockMarks) (token : Token) (inside rest : List Node)
    (opens : token.position = .opening) (blocks : Blocks inside)
    (crowded : ¬ Without token.name inside) (fresh : .text content ∉ allLinear marks inside)
    (later : .text content ∉ allLinear marks rest) :
    Loses content marks 1 (.token token [(defaultSlot, inside)] :: rest) := by
  have stands : Stands content 0 (inside ++ [.text content]) := .here _ (by simp)
  refine ⟨.token token [(defaultSlot, inside ++ [.text content])] :: rest,
    .block token inside _ rest rest (fuller_last content inside) (fuller_refl rest),
    stands_inside content 0 token _ rest stands, ?_⟩
  exact misses_crowded content marks token inside rest opens blocks crowded fresh later

-- The way down to a crowded block follows the cases in which blocks are apart.
theorem crowded_loses (marks : BlockMarks) (nodes : List Node) (blocks : Blocks nodes)
    (fresh : .text content ∉ allLinear marks nodes) (room : Nat)
    (crowded : ¬ Apart (room + 1) nodes) : Loses content marks (room + 1) nodes := by
  induction blocks generalizing room with
  | nil => exact absurd (.nil _) crowded
  | text found rest _ ih =>
      rw [allLinear, List.mem_append, not_or] at fresh
      have further : ¬ Apart (room + 1) rest := fun apart => crowded (.text _ found rest apart)
      exact loses_behind content marks _ (.text found) rest (.text found [] .nil) fresh.1
        (ih fresh.2 room further)
  | alone token rest stands _ ih =>
      rw [allLinear, List.mem_append, not_or] at fresh
      have further : ¬ Apart (room + 1) rest := fun apart => crowded (.alone _ token rest apart)
      have single : Blocks [.token token []] := .alone token [] stands .nil
      exact loses_behind content marks _ (.token token []) rest single fresh.1
        (ih fresh.2 room further)
  | block token inside rest opens within behind ihInside ihRest =>
      have parts := fresh
      rw [allLinear, List.mem_append, not_or] at parts
      have single : Blocks [.token token [(defaultSlot, inside)]] :=
        .block token inside [] opens within .nil
      have freshInside : Piece.text content ∉ allLinear marks inside := by
        intro member
        rw [all_linear_block] at fresh
        exact fresh (List.mem_cons_of_mem _ (List.mem_append_left _ member))
      have passed (further : ¬ Apart (room + 1) rest) :=
        loses_behind content marks (room + 1) _ rest single parts.1 (ihRest parts.2 room further)
      cases room with
      | zero =>
          by_cases free : Without token.name inside
          · exact passed fun apart => crowded (.last token inside rest free apart)
          · exact loses_last content marks token inside rest opens within free freshInside parts.2
      | succ room =>
          by_cases apart : Apart (room + 1) inside
          · exact passed fun further => crowded (.block room token inside rest apart further)
          · exact loses_inside content marks (room + 1) token inside rest opens parts.2
              (ihInside freshInside room apart)

theorem fresh_text (row : List Piece) : ∃ content, .text content ∉ row := by
  have apart : Function.Injective Piece.text := fun _ _ same => Piece.text.inj same
  obtain ⟨piece, ⟨content, rfl⟩, fresh⟩ :=
    (Set.infinite_range_of_injective apart).exists_notMem_finset row.toFinset
  exact ⟨content, fun member => fresh (List.mem_toFinset.mpr member)⟩

theorem misses_not_kept (marks : BlockMarks) (forest : List Node)
    (stands : Stands content (maxDepth - 1) forest)
    (misses : Misses content (maxDepth - 1) (allLinear marks forest)) :
    ¬ Keeps (maxDepth - 1) forest (fold (allLinear marks forest)) := by
  intro keeps
  have kept := keeps_stands content _ _ _ keeps _ (Nat.le_refl _) stands
  have placed := finish_holds content _ _ kept
  exact misses .start (by decide) (start_holds_nothing content _) placed

end

/-- Every node with fewer blocks around it than the greatest depth stays in the innermost of them,
whatever texts stand in the forest besides, exactly where the blocks on the last level are apart
from those in them. -/
theorem keeps_iff_apart (marks : BlockMarks) (forest : List Node) (blocks : Blocks forest) :
    Apart (maxDepth - 1) forest ↔
      ∀ fuller, Fuller forest fuller →
        Keeps (maxDepth - 1) fuller (fold (allLinear marks fuller)) := by
  constructor
  · intro apart fuller more
    exact fold_keeps marks fuller (blocks_fuller forest fuller more blocks)
      (apart_fuller (maxDepth - 1) forest fuller more apart)
  · intro keeps
    by_contra crowded
    obtain ⟨content, fresh⟩ := fresh_text (allLinear marks forest)
    obtain ⟨fuller, more, stands, misses⟩ :=
      crowded_loses content marks forest blocks fresh (maxDepth - 2) crowded
    exact misses_not_kept content marks fuller stands misses (keeps fuller more)

def sampleTag (name : String) : Token := ⟨.angle, name, .opening, "", ""⟩

/-- Blocks inside each other, with these nodes in the innermost one. -/
def nested (token : Token) : Nat → List Node → List Node
  | 0, inside => inside
  | levels + 1, inside => [.token token [(defaultSlot, nested token levels inside)]]

/-- As many blocks as levels are left, and in the last one a further block before a text. -/
def deepForest (further : String) : List Node :=
  nested (sampleTag "b") 255 [.token (sampleTag further) [(defaultSlot, [])], .text "y"]

theorem nested_blocks (token : Token) (levels : Nat) (inside : List Node)
    (opens : token.position = .opening) (blocks : Blocks inside) :
    Blocks (nested token levels inside) := by
  induction levels with
  | zero => exact blocks
  | succ levels ih => exact .block token _ [] opens ih .nil

theorem nested_apart (token : Token) (levels : Nat) (inside : List Node)
    (without : Without token.name inside) :
    Apart (levels + 1) (nested token (levels + 1) inside) := by
  induction levels with
  | zero => exact .last token inside [] without (.nil 1)
  | succ levels ih => exact .block levels token _ [] ih (.nil _)

theorem deep_blocks (further : String) : Blocks (deepForest further) :=
  nested_blocks _ 255 _ rfl (.block _ [] _ rfl .nil (.text "y" [] .nil))

theorem keeps_iff_apart_italic :
    Blocks (deepForest "i") ∧ Apart (maxDepth - 1) (deepForest "i") ∧
      Keeps (maxDepth - 1) (deepForest "i") (fold (allLinear bareMarks (deepForest "i"))) := by
  have apart : Apart (maxDepth - 1) (deepForest "i") :=
    nested_apart _ 254 _ (.block _ [] _ (by decide) .nil (.text "y" [] .nil))
  exact ⟨deep_blocks "i", apart,
    (keeps_iff_apart bareMarks (deepForest "i") (deep_blocks "i")).mp apart _ (fuller_refl _)⟩

theorem nested_stands (content : String) (token : Token) (levels : Nat) (inside : List Node)
    (stands : Stands content 0 inside) : Stands content levels (nested token levels inside) := by
  induction levels with
  | zero => exact stands
  | succ levels ih => exact stands_inside content levels token _ [] ih

theorem nested_misses (content : String) (marks : BlockMarks) (token : Token) (levels : Nat)
    (inside : List Node) (opens : token.position = .opening) (blocks : Blocks inside)
    (crowded : ¬ Without token.name inside) (fresh : .text content ∉ allLinear marks inside) :
    Misses content (levels + 1)
      (allLinear marks (nested token (levels + 1) (inside ++ [.text content]))) := by
  induction levels with
  | zero =>
      exact misses_crowded content marks token inside [] opens blocks crowded fresh List.not_mem_nil
  | succ levels ih =>
      rw [nested, all_linear_block]
      exact misses_inside content (levels + 1) token (marks.closing token) _ _ opens
        List.not_mem_nil ih

-- The text has one block fewer around it in the end.
theorem deep_text_moved :
    Blocks (deepForest "b") ∧
      ¬ Keeps (maxDepth - 1) (deepForest "b") (fold (allLinear bareMarks (deepForest "b"))) := by
  have crowded : ¬ Without "b" [.token (sampleTag "b") [(defaultSlot, [])]] := by
    intro without
    cases without with
    | block _ _ _ other _ _ => exact other rfl
  have misses : Misses "y" (maxDepth - 1) (allLinear bareMarks (deepForest "b")) :=
    nested_misses "y" bareMarks (sampleTag "b") 254 [.token (sampleTag "b") [(defaultSlot, [])]] rfl
      (.block _ [] [] rfl .nil .nil) crowded (by decide)
  have stands : Stands "y" (maxDepth - 1) (deepForest "b") :=
    nested_stands "y" (sampleTag "b") 255 _ (.here _ (by simp))
  exact ⟨deep_blocks "b", misses_not_kept "y" bareMarks _ stands misses⟩

end Node

end MarkupTemplate
