import MarkupTemplate.Proofs.Template.Parts

/-!
How deep elements go. A directive adds no level to what its slots produce, and a tag adds its own;
but a tag may be given texts by an attribute, and these stand one level below the deepest node of
the forest. Main statement: forests are bounded by the greatest depth, and elements by one level
more, whatever the source and the context.
-/

namespace MarkupTemplate

namespace Element

mutual

/-- How many elements stand on the longest way down, this one included. -/
def levels : Element → Nat
  | ⟨_, _, children⟩ => allLevels children + 1

def allLevels : List Element → Nat
  | [] => 0
  | element :: rest => max element.levels (allLevels rest)

end

theorem all_levels_le_iff (elements : List Element) (bound : Nat) :
    allLevels elements ≤ bound ↔ ∀ element ∈ elements, element.levels ≤ bound := by
  induction elements with
  | nil => simp [allLevels]
  | cons element rest ih => rw [allLevels, Nat.max_le, ih, List.forall_mem_cons]

-- The texts that an attribute gives are leaves beside the children.
theorem new_levels (kind : String) (attrs : List (String × Value)) (children : List Element)
    (bound : Nat) (shallow : ∀ child ∈ children, child.levels ≤ bound + 1) :
    (new kind attrs children).levels ≤ bound + 2 := by
  rw [new, levels]
  apply Nat.succ_le_succ
  rw [all_levels_le_iff]
  intro element member
  rcases List.mem_append.mp member with given | child
  · obtain ⟨content, rfl⟩ := attr_children_texts attrs element given
    exact Nat.le_add_left 1 bound
  · exact shallow element child

/-- An element may go one level deeper than the nodes that it is made from. -/
theorem levels_graded : Graded fun levels element => element.levels ≤ levels + 1 where
  text levels _ := Nat.le_add_left 1 levels
  higher _ _ shallow := Nat.le_succ_of_le shallow
  tag levels kind attrs children shallow := new_levels kind attrs children levels shallow

end Element

namespace Reader

theorem forest_levels (reader : Reader)
    (directives : ∀ bound, reader.directives.Give fun element => element.levels ≤ bound)
    (nodes : List Node) (scope : Scope) :
    Element.allLevels (reader.forestBody nodes scope) ≤ Node.allLevels nodes + 1 := by
  rw [Element.all_levels_le_iff]
  have given := forest_gives reader Element.levels_graded (fun levels => directives (levels + 1))
    nodes (Node.allLevels nodes) (Nat.le_refl _)
  exact given scope

end Reader

-- The text in the attribute of a leaf stands below it.
example : Node.allLevels (fold (tokenize false "<b children='x'/>")) = 1 ∧
    Element.allLevels (parse "<b children='x'/>") = 2 := by decide +kernel

/-- No forest is deeper than the greatest depth, and no tree of elements by more than one level. -/
theorem forests_and_elements_bounded :
    (∀ (templated : Bool) (source : String),
      Node.allLevels (fold (tokenize templated source)) ≤ maxDepth) ∧
    ∀ (templated : Bool) (source : String) (context : Dict Value),
      Element.allLevels ((Reader.mk templated builtins).render source context) ≤ maxDepth + 1 := by
  constructor
  · intro templated source
    exact fold_levels _
  · intro templated source context
    have nodes := fold_levels (tokenize templated source)
    have elements := Reader.forest_levels (Reader.mk templated builtins)
      (fun _ => builtins_give _) (fold (tokenize templated source)) (.root context)
    exact Nat.le_trans elements (Nat.succ_le_succ nodes)

end MarkupTemplate
