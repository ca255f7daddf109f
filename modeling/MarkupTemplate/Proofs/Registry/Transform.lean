import MarkupTemplate.Outcome
import MarkupTemplate.Registry.Outline

/-!
A registry on a whole forest. The elements of a forest are met in the order in which their tags
open, each with the tags that stand around it. Main statement: where every element has a node, the
result is the forest of these nodes, each with the nodes of its children pushed behind it; otherwise
it is the error of the first element that has none, within all the tags around that element.
-/

namespace MarkupTemplate

namespace Element

/-- An element on the way through a forest, and the tags around it, the outermost one first. -/
structure Visit where
  around : List String
  kind : String
  attrs : List (String × Value)

mutual

def visits (around : List String) : Element → List Visit
  | ⟨kind, attrs, children⟩ => ⟨around, kind, attrs⟩ :: allVisits (around ++ [kind]) children

def allVisits (around : List String) : List Element → List Visit
  | [] => []
  | element :: rest => element.visits around ++ allVisits around rest

end

/-- The elements of a forest, each before its children and these before its later siblings. -/
def preorder (forest : List Element) : List Visit := allVisits [] forest

end Element

open Element

/-- An error with tags around it, the first of them outermost. -/
def TransformError.within (around : List String) (error : TransformError) : TransformError :=
  around.foldr .child error

namespace Registry

variable {α : Type} (registry : Registry α)

/-- The node of an element without its children can be built. -/
def Builds (visit : Visit) : Prop := ∃ node, registry.construct visit.kind visit.attrs = .ok node

/-- The error is that of the first visit whose node cannot be built. -/
def FailsFirst (visits : List Visit) (error : TransformError) : Prop :=
  ∃ before visit after own, visits = before ++ visit :: after ∧
    (∀ earlier ∈ before, registry.Builds earlier) ∧
    registry.construct visit.kind visit.attrs = .error own ∧ error = own.within visit.around

/-- What goes wrong at a visit. -/
def failure (visit : Visit) : Option TransformError :=
  match registry.construct visit.kind visit.attrs with
  | .ok _ => none
  | .error own => some (own.within visit.around)

theorem failure_none_iff (visit : Visit) :
    registry.failure visit = none ↔ registry.Builds visit := by
  rw [failure, Builds]
  cases registry.construct visit.kind visit.attrs <;> simp

theorem failure_some_iff (visit : Visit) (error : TransformError) :
    registry.failure visit = some error ↔
      ∃ own, registry.construct visit.kind visit.attrs = .error own ∧
        error = own.within visit.around := by
  rw [failure]
  cases registry.construct visit.kind visit.attrs <;> simp [eq_comm]

theorem first_failure_iff (visits : List Visit) (error : TransformError) :
    visits.findSome? registry.failure = some error ↔ registry.FailsFirst visits error := by
  rw [List.findSome?_eq_some_iff]
  constructor
  · rintro ⟨before, visit, after, split, fails, builds⟩
    obtain ⟨own, refused, same⟩ := (registry.failure_some_iff visit error).mp fails
    refine ⟨before, visit, after, own, split, fun earlier member => ?_, refused, same⟩
    exact (registry.failure_none_iff earlier).mp (builds earlier member)
  · rintro ⟨before, visit, after, own, split, builds, refused, same⟩
    refine ⟨before, visit, after, split, ?_, fun earlier member => ?_⟩
    · exact (registry.failure_some_iff visit error).mpr ⟨own, refused, same⟩
    · exact (registry.failure_none_iff earlier).mpr (builds earlier member)

variable [TypedNode α]

/-- The nodes of a forest: each is built alone, and then the nodes of its children are pushed behind
it in their order. -/
inductive Assembles : List Element → List α → Prop where
  | nil : Assembles [] []
  | node (kind : String) (attrs : List (String × Value)) (children rest : List Element) (node : α)
      (inner others : List α) : registry.construct kind attrs = .ok node →
      Assembles children inner → Assembles rest others →
      Assembles (⟨kind, attrs, children⟩ :: rest)
        (inner.foldl (fun parent child => TypedNode.push child parent) node :: others)

/-- The error that a result is, if it is one. -/
def failed? {β : Type} : Except TransformError β → Option TransformError
  | .ok _ => none
  | .error error => some error

mutual

theorem element_failure (around : List String) (element : Element) :
    (element.visits around).findSome? registry.failure =
      (failed? (registry.transformElement element)).map (TransformError.within around) := by
  obtain ⟨kind, attrs, children⟩ := element
  have inside := forest_failure (around ++ [kind]) children
  rw [visits, List.findSome?_cons, transformElement]
  cases built : registry.construct kind attrs with
  | error own => simp [failure, built, failed?, bind, Except.bind]
  | ok node =>
      rw [inside]
      cases others : registry.transform children with
      | error error =>
          simp [failure, built, failed?, bind, Except.bind, map_error_error, TransformError.within]
      | ok inner =>
          simp [failure, built, failed?, bind, Except.bind, map_error_ok, pure, Except.pure]

theorem forest_failure (around : List String) (forest : List Element) :
    (allVisits around forest).findSome? registry.failure =
      (failed? (registry.transform forest)).map (TransformError.within around) := by
  cases forest with
  | nil => rfl
  | cons element rest =>
      have first := element_failure around element
      have others := forest_failure around rest
      rw [allVisits, List.findSome?_append, first, others, transform]
      cases registry.transformElement element with
      | error error => simp [failed?, bind, Except.bind]
      | ok node =>
          cases registry.transform rest <;> simp [failed?, bind, Except.bind, pure, Except.pure]

end

theorem transform_error_iff (forest : List Element) (error : TransformError) :
    registry.transform forest = .error error ↔ registry.FailsFirst (preorder forest) error := by
  rw [← first_failure_iff, preorder, forest_failure]
  cases registry.transform forest with
  | error other => simp [failed?, TransformError.within]
  | ok nodes => simp [failed?]

theorem transforms_iff (forest : List Element) :
    (∃ nodes, registry.transform forest = .ok nodes) ↔
      ∀ visit ∈ preorder forest, registry.Builds visit := by
  have failure := registry.forest_failure [] forest
  have builds : (∀ visit ∈ preorder forest, registry.Builds visit) ↔
      (preorder forest).findSome? registry.failure = none := by
    simp only [List.findSome?_eq_none_iff, failure_none_iff]
  rw [builds, preorder, failure]
  cases registry.transform forest <;> simp [failed?]

mutual

theorem element_assembles (element : Element) (node : α)
    (built : registry.transformElement element = .ok node) (rest : List Element) (others : List α)
    (later : registry.Assembles rest others) :
    registry.Assembles (element :: rest) (node :: others) := by
  obtain ⟨kind, attrs, children⟩ := element
  rw [transformElement] at built
  obtain ⟨bare, here, built⟩ := bind_ok built
  obtain ⟨inner, inside, built⟩ := bind_ok built
  cases made : registry.transform children with
  | error error => rw [made] at inside; cases inside
  | ok nodes =>
      rw [made] at inside
      cases inside
      cases built
      have within := forest_assembles children _ made
      exact .node kind attrs children rest bare _ others here within later

theorem forest_assembles (forest : List Element) (nodes : List α)
    (built : registry.transform forest = .ok nodes) : registry.Assembles forest nodes := by
  cases forest with
  | nil => cases built; exact .nil
  | cons element rest =>
      obtain ⟨node, here, built⟩ := bind_ok built
      obtain ⟨others, later, built⟩ := bind_ok built
      cases built
      exact element_assembles element node here rest others (forest_assembles rest others later)

end

theorem transform_ok_iff (forest : List Element) (nodes : List α) :
    registry.transform forest = .ok nodes ↔ registry.Assembles forest nodes := by
  constructor
  · exact registry.forest_assembles forest nodes
  · intro assembles
    induction assembles with
    | nil => rfl
    | node kind attrs children rest node inner others built _ _ insideIh laterIh =>
        rw [transform, transformElement, built, insideIh, laterIh]
        rfl

/-- A forest is transformed exactly where every element has a node, into the nodes that its elements
have, of the same shape; and otherwise it fails with the error of the first element that has none,
within the tags around that element. -/
theorem transform_assembles_or_fails_first (forest : List Element) :
    ((∃ nodes, registry.transform forest = .ok nodes) ↔
        ∀ visit ∈ preorder forest, registry.Builds visit) ∧
      (∀ nodes, registry.transform forest = .ok nodes ↔ registry.Assembles forest nodes) ∧
      ∀ error, registry.transform forest = .error error ↔
        registry.FailsFirst (preorder forest) error :=
  ⟨registry.transforms_iff forest, registry.transform_ok_iff forest,
    registry.transform_error_iff forest⟩

-- What stands in an element counts before what stands behind it.
example :
    transform (⟨[("b", Outline.ofGroup)], none⟩ : Registry Outline)
        [⟨"b", [], [⟨"i", [], [⟨"b", [], []⟩]⟩]⟩, ⟨"u", [], []⟩] =
      .error (.child "b" (.unregistered "i")) := rfl

end Registry

end MarkupTemplate
