import MarkupTemplate.Proofs.Rearrangement.Element
import MarkupTemplate.Proofs.Rearrangement.Expr
import MarkupTemplate.Proofs.Template.Parts

/-!
Rendering in contexts that differ in the order of map entries only. A part of a template is
stable when it produces rearranged elements in scopes whose values are rearranged. Every directive
keeps this of its slots, and so does every token of a template. Main statement: a source renders in
both contexts to trees of one shape with the same texts.
-/

namespace MarkupTemplate

/-- The part produces elements of one shape in all scopes that bind the same names to rearranged
values. -/
def Body.Stable (body : Body) : Prop :=
  ∀ left right : Scope, left.Rearranged right →
    List.Forall₂ Element.Rearranged (body left) (body right)

/-- Whatever slot is asked for, it is stable. -/
def SlotsStable (slots : Dict Body) : Prop := ∀ name, (slotBody slots name).Stable

/-- The directive is stable in every block with stable slots. -/
def Directive.Stable (directive : Directive) : Prop :=
  ∀ (token : Token) (slots : Dict Body), SlotsStable slots → Body.Stable (directive token slots)

def Directives.Stable (directives : Directives) : Prop :=
  ∀ name directive, Dict.find name directives = some directive → directive.Stable

theorem nothing_stable : Body.Stable fun _ => [] := fun _ _ _ => .nil

theorem if_stable : Directive.Stable ifDirective := by
  intro token slots stable left right scopes
  rw [ifDirective, ifDirective, (evaluate_rearranged scopes token.extra).isTruthy]
  exact stable _ left right scopes

theorem each_stable : Directive.Stable eachDirective := by
  intro token slots stable left right scopes
  rw [eachDirective, eachDirective]
  cases splitAs token.extra.toList with
  | none => exact .nil
  | some parts =>
      obtain ⟨items, name⟩ := parts
      have visited := (interpolate_rearranged scopes (String.ofList items)).loopItems
      simp only
      generalize (left.interpolate (String.ofList items)).loopItems = first,
        (right.interpolate (String.ofList items)).loopItems = second at visited
      cases visited with
      | none => exact .nil
      | some values =>
          apply List.rel_flatMap values
          intro value other rearranged
          exact stable defaultSlot _ _ (child_rearranged scopes _ rearranged)

theorem builtins_stable : builtins.Stable :=
  builtins_each Directive.Stable if_stable each_stable

namespace Reader

variable (reader : Reader)

theorem token_stable (directives : reader.directives.Stable) (token : Token) (slots : Dict Body)
    (stable : SlotsStable slots) : Body.Stable (reader.tokenBody token slots) := by
  intro left right scopes
  rw [tokenBody, tokenBody]
  cases token.bracket with
  | angle =>
      have attrs := read_attrs_rearranged reader.templated left.interpolate right.interpolate
        (interpolate_rearranged scopes) token.extra
      have children := stable defaultSlot left right scopes
      exact .cons (Element.new_rearranged attrs token.name children) .nil
  | curly =>
      by_cases printed : token.name = ""
      · simp only [printed, ↓reduceIte]
        rw [Element.of_value_rearranged (interpolate_rearranged scopes token.extra)]
        exact Element.all_rearranged_same _
      · simp only [printed, ↓reduceIte]
        cases found : Dict.find token.name reader.directives with
        | none => exact .nil
        | some directive => exact directives _ _ found token slots stable left right scopes

theorem forest_stable (directives : reader.directives.Stable) (nodes : List Node) :
    Body.Stable (reader.forestBody nodes) := by
  have relates : Relates reader reader (fun _ => True) fun _ body _ => body.Stable := by
    constructor
    · intro _
      exact nothing_stable
    · intro _ first _ rest _ firstStable restStable left right scopes
      exact List.rel_append (firstStable left right scopes) (restStable left right scopes)
    · intro _ content left right scopes
      exact Element.all_rearranged_same [Element.ofText content]
    · intro _ token slots _ _ stable
      exact token_stable reader directives token slots stable
  exact forest_related relates nodes _ (Nat.le_refl _) fun _ _ => trivial

/-- This holds of every table of stable directives, not only of the built-in ones. -/
theorem render_stable (directives : reader.directives.Stable) (source : String)
    (left right : Dict Value) (contexts : Value.Rearranged (.map left) (.map right)) :
    List.Forall₂ Element.Rearranged (reader.render source left) (reader.render source right) :=
  forest_stable reader directives _ _ _ (root_rearranged left right contexts)

end Reader

/-- Contexts that differ in the order of map entries only render to trees of one shape, with
rearranged attribute values, and to the same texts. -/
theorem render_ignores_entry_order (source : String) (left right : Dict Value)
    (contexts : Value.Rearranged (.map left) (.map right)) :
    List.Forall₂ Element.Rearranged (render source left) (render source right) ∧
      Element.allMarkup (render source left) = Element.allMarkup (render source right) ∧
      Element.allPlainText (render source left) = Element.allPlainText (render source right) := by
  have trees := Reader.render_stable .template builtins_stable source left right contexts
  refine ⟨trees, ?_, ?_⟩
  · exact Element.all_markup_rearranged _ _ trees
  · exact Element.all_plain_text_rearranged _ _ trees

def sampleUser : Dict Value := [("name", .string "Ann"), ("roles", .list [.string "a", .int 2])]

/-- A context with a map inside a map. -/
def sampleContext : Dict Value := [("user", .map sampleUser), ("count", .int 3)]

def sampleReversed : Dict Value := [("count", .int 3), ("user", .map sampleUser.reverse)]

/-- A template that visits, indexes, compares, prints and hands on the inner map. -/
def sampleSource : String :=
  "\x7b#each user as key\x7d<b of=\x7buser\x7d>\x7bkey + user[key]\x7d</b>\x7b/each\x7d" ++
    "<i same=\x7buser == user\x7d>\x7b\"\" + user\x7d</i>"

theorem sample_reversed : Value.Rearranged (.map sampleContext) (.map sampleReversed) := by
  have inner : Value.Rearranged (.map sampleUser) (.map sampleUser.reverse) :=
    .of_perm sampleUser _ (by decide) (List.reverse_perm sampleUser).symm
  have outer : EntriesRearranged sampleContext sampleReversed.reverse :=
    .cons ⟨rfl, inner⟩ (EntriesRearranged.same _)
  exact (outer.map (by decide)).trans (.of_perm _ _ (by decide) (List.reverse_perm _))

theorem render_ignores_entry_order_reversed :
    Value.Rearranged (.map sampleContext) (.map sampleReversed) ∧
      List.Forall₂ Element.Rearranged (render sampleSource sampleContext)
        (render sampleSource sampleReversed) ∧
      Element.allMarkup (render sampleSource sampleContext) =
        Element.allMarkup (render sampleSource sampleReversed) ∧
      Element.allPlainText (render sampleSource sampleContext) =
        Element.allPlainText (render sampleSource sampleReversed) :=
  ⟨sample_reversed, render_ignores_entry_order _ _ _ sample_reversed⟩

end MarkupTemplate
