import MarkupTemplate.Proofs.Forest.Content
import MarkupTemplate.Proofs.Forest.Levels
import MarkupTemplate.Template.Render

/-!
What the parts of a template have in common. A forest is walked once here, for two readers at a
time: what relates the parts that they produce is passed on from the slots of a token to the token,
one level up, and from nodes to rows of nodes. Properties of single elements are a case of this.
Main statements: two readers that treat every token of a forest alike treat the forest alike, and a
reader produces nothing but elements of a sort that texts, tags and directives keep.
-/

namespace MarkupTemplate

open Node (allPieces slotPieces allLevels slotsLevels)

theorem slot_body_cons (name key : String) (body : Body) (rest : Dict Body) :
    slotBody ((name, body) :: rest) key = if name = key then body else slotBody rest key := by
  funext scope
  by_cases same : name = key
  · rw [slotBody, Dict.find, if_pos same, if_pos same]
  · rw [slotBody, Dict.find, if_neg same, if_neg same]
    rfl

/-- What holds of the conditional and of the loop holds of all built-in directives. -/
theorem builtins_each (holds : Directive → Prop) (conditional : holds ifDirective)
    (loop : holds eachDirective) (name : String) (directive : Directive)
    (found : Dict.find name builtins = some directive) : holds directive := by
  rcases List.mem_cons.mp (Dict.mem_of_find _ _ _ found) with same | member
  · cases same
    exact conditional
  · cases List.mem_singleton.mp member
    exact loop

namespace Reader

/-- Two readers pass a relation between parts on. It holds of empty rows and of texts, of rows put
together, and of a token one level above its slots, where `admits` says which tokens count. -/
structure Relates (left right : Reader) (admits : Token → Prop)
    (related : Nat → Body → Body → Prop) : Prop where
  nothing : ∀ levels, related levels (fun _ => []) (fun _ => [])
  append : ∀ levels (first second rest others : Body), related levels first second →
    related levels rest others →
    related levels (fun scope => first scope ++ rest scope)
      (fun scope => second scope ++ others scope)
  text : ∀ levels content,
    related (levels + 1) (fun _ => [Element.ofText content]) (fun _ => [Element.ofText content])
  token : ∀ levels token slots others, admits token →
    (∀ name, related levels (slotBody slots name) (slotBody others name)) →
    related (levels + 1) (left.tokenBody token slots) (right.tokenBody token others)

section

variable {left right : Reader} {admits : Token → Prop} {related : Nat → Body → Body → Prop}
  (relates : Relates left right admits related)

include relates

mutual

theorem node_related : (node : Node) → (levels : Nat) → node.levels ≤ levels →
    (∀ token, .token token ∈ node.pieces anySlot → admits token) →
    related levels (left.nodeBody node) (right.nodeBody node)
  | .text content, levels + 1, _, _ => relates.text levels content
  | .token token slots, levels + 1, fits, admitted =>
      relates.token levels token _ _ (admitted token List.mem_cons_self)
        (slots_related slots levels (Nat.le_of_succ_le_succ fits) fun other member =>
          admitted other (List.mem_cons_of_mem _ member))

theorem forest_related : (nodes : List Node) → (levels : Nat) → allLevels nodes ≤ levels →
    (∀ token, .token token ∈ allPieces anySlot nodes → admits token) →
    related levels (left.forestBody nodes) (right.forestBody nodes)
  | [], levels, _, _ => relates.nothing levels
  | node :: rest, levels, fits, admitted => by
      have first := node_related node levels (Nat.le_trans (Nat.le_max_left _ _) fits)
        fun token member => admitted token (List.mem_append_left _ member)
      have others := forest_related rest levels (Nat.le_trans (Nat.le_max_right _ _) fits)
        fun token member => admitted token (List.mem_append_right _ member)
      exact relates.append levels _ _ _ _ first others

theorem slots_related : (slots : List (String × List Node)) → (levels : Nat) →
    slotsLevels slots ≤ levels →
    (∀ token, .token token ∈ slotPieces anySlot slots → admits token) →
    ∀ name, related levels (slotBody (left.slotBodies slots) name)
      (slotBody (right.slotBodies slots) name)
  | [], levels, _, _, _ => relates.nothing levels
  | (present, nodes) :: rest, levels, fits, admitted, name => by
      have first := forest_related nodes levels (Nat.le_trans (Nat.le_max_left _ _) fits)
        fun token member => admitted token (List.mem_append_left _ member)
      have others := slots_related rest levels (Nat.le_trans (Nat.le_max_right _ _) fits)
        (fun token member => admitted token (List.mem_append_right _ member)) name
      rw [slotBodies, slotBodies, slot_body_cons, slot_body_cons]
      by_cases same : present = name
      · rw [if_pos same, if_pos same]
        exact first
      · rw [if_neg same, if_neg same]
        exact others

end

end

end Reader

/-- In every scope the part produces good elements only. -/
def Body.Gives (good : Element → Prop) (body : Body) : Prop :=
  ∀ scope, ∀ element ∈ body scope, good element

/-- The directive produces good elements in every block whose slots do. -/
def Directive.Gives (good : Element → Prop) (directive : Directive) : Prop :=
  ∀ (token : Token) (slots : Dict Body), (∀ name, (slotBody slots name).Gives good) →
    Body.Gives good (directive token slots)

def Directives.Give (good : Element → Prop) (directives : Directives) : Prop :=
  ∀ name directive, Dict.find name directives = some directive → directive.Gives good

section

variable (good : Element → Prop)

theorem if_gives : Directive.Gives good ifDirective := by
  intro token slots given scope
  exact given _ scope

-- Every round of the loop produces the same slot, in a scope of its own.
theorem each_gives : Directive.Gives good eachDirective := by
  intro token slots given scope element member
  rw [eachDirective] at member
  split at member
  · cases member
  · split at member
    · cases member
    · obtain ⟨value, _, inside⟩ := List.mem_flatMap.mp member
      exact given defaultSlot _ element inside

theorem builtins_give : builtins.Give good :=
  builtins_each (Directive.Gives good) (if_gives good) (each_gives good)

end

namespace Element

/-- A sort of elements for every level. Texts are of each, a higher level admits more, and an
element is of the sort above that of the children it is given. -/
structure Graded (good : Nat → Element → Prop) : Prop where
  text : ∀ levels content, good levels (ofText content)
  higher : ∀ levels element, good levels element → good (levels + 1) element
  tag : ∀ levels kind attrs children, (∀ child ∈ children, good levels child) →
    good (levels + 1) (new kind attrs children)

theorem of_scalar_text (value : Value) (element : Element) (made : ofScalar? value = some element) :
    ∃ content, element = ofText content := by
  unfold ofScalar? at made
  split at made
  · exact ⟨_, (Option.some.inj made).symm⟩
  · exact ⟨_, (Option.some.inj made).symm⟩
  · exact ⟨_, (Option.some.inj made).symm⟩
  · split at made
    · cases made
    · exact ⟨_, (Option.some.inj made).symm⟩
  · cases made

/-- A value gives nothing but texts. -/
theorem of_value_texts (value : Value) (element : Element) (member : element ∈ ofValue value) :
    ∃ content, element = ofText content := by
  unfold ofValue at member
  split at member
  · obtain ⟨item, _, made⟩ := List.mem_filterMap.mp member
    exact of_scalar_text item element made
  · exact of_scalar_text _ element (Option.mem_toList.mp member)

theorem attr_children_texts (attrs : List (String × Value)) (element : Element)
    (member : element ∈ attrChildren attrs) : ∃ content, element = ofText content := by
  obtain ⟨entry, _, inside⟩ := List.mem_flatMap.mp member
  exact of_value_texts entry.2 element inside

end Element

namespace Reader

/-- A sort of elements for every level that a reader keeps: its texts are of each, its directives
keep it, and a tag gives an element of the sort above that of its children. `admits` says which
tokens count. -/
structure Grades (reader : Reader) (admits : Token → Prop) (good : Nat → Element → Prop) :
    Prop where
  text : ∀ levels content, good levels (Element.ofText content)
  higher : ∀ levels element, good levels element → good (levels + 1) element
  tag : ∀ levels token scope children, admits token → token.bracket = .angle →
    (∀ child ∈ children, good levels child) →
    good (levels + 1) (Element.new token.name
      (readAttrs reader.templated (Scope.interpolate scope) token.extra) children)
  directives : ∀ levels, reader.directives.Give (good levels)

section

variable {reader : Reader} {admits : Token → Prop} {good : Nat → Element → Prop}
  (grades : Grades reader admits good)

include grades

theorem token_gives (levels : Nat) (token : Token) (slots : Dict Body) (admitted : admits token)
    (given : ∀ name, (slotBody slots name).Gives (good levels)) :
    Body.Gives (good (levels + 1)) (reader.tokenBody token slots) := by
  intro scope element member
  rw [tokenBody] at member
  split at member
  · rename_i angle
    rw [List.mem_singleton.mp member]
    exact grades.tag levels token scope _ admitted angle (given defaultSlot scope)
  · split at member
    · obtain ⟨content, rfl⟩ := Element.of_value_texts _ element member
      exact grades.text _ content
    · split at member
      · rename_i directive found
        apply grades.higher
        exact grades.directives levels _ directive found token slots given scope element member
      · cases member

theorem admitted_gives (nodes : List Node) (levels : Nat) (fits : allLevels nodes ≤ levels)
    (admitted : ∀ token, .token token ∈ allPieces anySlot nodes → admits token) :
    (reader.forestBody nodes).Gives (good levels) := by
  have relates : Relates reader reader admits fun levels body _ => body.Gives (good levels) := by
    constructor
    · intro levels scope element member
      cases member
    · intro levels first _ rest _ firstGood restGood scope element member
      rcases List.mem_append.mp member with inside | behind
      · exact firstGood scope element inside
      · exact restGood scope element behind
    · intro levels content scope element member
      rw [List.mem_singleton.mp member]
      exact grades.text _ content
    · intro levels token slots _ counts given
      exact token_gives grades levels token slots counts given
  exact forest_related relates nodes levels fits admitted

end

/-- What a reader produces for a forest is of the sort of its levels. -/
theorem forest_gives (reader : Reader) {good : Nat → Element → Prop} (graded : Element.Graded good)
    (directives : ∀ levels, reader.directives.Give (good levels)) (nodes : List Node)
    (levels : Nat) (fits : allLevels nodes ≤ levels) :
    (reader.forestBody nodes).Gives (good levels) := by
  have grades : Grades reader (fun _ => True) good := by
    constructor
    · exact graded.text
    · exact graded.higher
    · exact fun levels token _ children _ _ => graded.tag levels token.name _ children
    · exact directives
  exact admitted_gives grades nodes levels fits fun _ _ => trivial

end Reader

end MarkupTemplate
