import MarkupTemplate.Forest
import MarkupTemplate.Proofs.Expr.Identifier
import MarkupTemplate.Proofs.Template.Settings
import MarkupTemplate.Template.Directive

/-!
The syntax of templates and its meaning. A template is a row of parts: texts,
printed values, elements, conditionals and loops, each with the rest of the row
behind it. It is printed as the markup that a reader takes in, and it denotes
the elements that it produces in a scope.
-/

namespace MarkupTemplate

inductive Template where
  | empty
  | text (content : String) (rest : Template)
  | value (source : String) (rest : Template)
  | element (name : String) (attrs : List (String × Setting)) (body rest : Template)
  | whether (condition : String) (yes rest : Template)
  | choice (condition : String) (yes no rest : Template)
  | loop (items item : String) (body rest : Template)

namespace Template

def print : Template → String
  | .empty => ""
  | .text content rest => Entity.escape content false ++ rest.print
  | .value source rest => "\x7b@" ++ source ++ "\x7d" ++ rest.print
  | .element name attrs body rest =>
      "<" ++ name ++ Setting.printAll attrs ++ ">" ++ body.print ++ "</" ++ name ++ ">" ++ rest.print
  | .whether condition yes rest =>
      "\x7b#if " ++ condition ++ "\x7d" ++ yes.print ++ "\x7b/if\x7d" ++ rest.print
  | .choice condition yes no rest =>
      "\x7b#if " ++ condition ++ "\x7d" ++ yes.print ++ "\x7b:else\x7d" ++ no.print ++
        "\x7b/if\x7d" ++ rest.print
  | .loop items item body rest =>
      "\x7b#each " ++ items ++ " as " ++ item ++ "\x7d" ++ body.print ++ "\x7b/each\x7d" ++
        rest.print

/-- What the items of a loop denote is repeated under the name of the item. -/
def denote : Template → Body
  | .empty => fun _ => []
  | .text content rest => fun scope => Element.ofText content :: rest.denote scope
  | .value source rest => fun scope =>
      Element.ofValue (scope.interpolate source) ++ rest.denote scope
  | .element name attrs body rest => fun scope =>
      Element.new name (Setting.values scope.interpolate attrs) (body.denote scope) ::
        rest.denote scope
  | .whether condition yes rest => fun scope =>
      (if (scope.evaluate condition).isTruthy then yes.denote scope else []) ++ rest.denote scope
  | .choice condition yes no rest => fun scope =>
      (if (scope.evaluate condition).isTruthy then yes.denote scope else no.denote scope) ++
        rest.denote scope
  | .loop items item body rest => fun scope =>
      (((scope.interpolate items).loopItems.getD []).flatMap fun value =>
        body.denote (scope.child item value)) ++ rest.denote scope

def startsWithText : Template → Bool
  | .text _ _ => true
  | _ => false

/-- No part has a character that would end it early, and no two texts stand side by side. -/
def WellFormed : Template → Prop
  | .empty => True
  | .text content rest =>
      content.toList ≠ [] ∧ '{' ∉ content.toList ∧ '\n' ∉ content.toList ∧
        rest.startsWithText = false ∧ rest.WellFormed
  | .value source rest => '}' ∉ source.toList ∧ rest.WellFormed
  | .element name attrs body rest =>
      IsWord nameMarks name.toList ∧ (∀ entry ∈ attrs, Setting.Legible true entry) ∧
        (attrs.map Prod.fst).Nodup ∧ body.WellFormed ∧ rest.WellFormed
  | .whether condition yes rest => '}' ∉ condition.toList ∧ yes.WellFormed ∧ rest.WellFormed
  | .choice condition yes no rest =>
      '}' ∉ condition.toList ∧ yes.WellFormed ∧ no.WellFormed ∧ rest.WellFormed
  | .loop items item body rest =>
      '}' ∉ items.toList ∧ ¬ ['a', 's'] <:+: items.toList ∧ Expr.IsIdentifier item.toList ∧
        body.WellFormed ∧ rest.WellFormed

instance decidableWellFormed : (template : Template) → Decidable template.WellFormed
  | .empty => inferInstanceAs (Decidable True)
  | .text _ rest =>
      have := decidableWellFormed rest
      inferInstanceAs (Decidable (_ ∧ _ ∧ _ ∧ _ ∧ _))
  | .value _ rest =>
      have := decidableWellFormed rest
      inferInstanceAs (Decidable (_ ∧ _))
  | .element _ _ body rest =>
      have := decidableWellFormed body
      have := decidableWellFormed rest
      inferInstanceAs (Decidable (_ ∧ _ ∧ _ ∧ _ ∧ _))
  | .whether _ yes rest =>
      have := decidableWellFormed yes
      have := decidableWellFormed rest
      inferInstanceAs (Decidable (_ ∧ _ ∧ _))
  | .choice _ yes no rest =>
      have := decidableWellFormed yes
      have := decidableWellFormed no
      have := decidableWellFormed rest
      inferInstanceAs (Decidable (_ ∧ _ ∧ _ ∧ _))
  | .loop _ _ body rest =>
      have := decidableWellFormed body
      have := decidableWellFormed rest
      inferInstanceAs (Decidable (_ ∧ _ ∧ _ ∧ _ ∧ _))

/-- How many blocks stand inside each other. -/
def depth : Template → Nat
  | .empty => 0
  | .text _ rest => rest.depth
  | .value _ rest => rest.depth
  | .element _ _ body rest => max (body.depth + 1) rest.depth
  | .whether _ yes rest => max (yes.depth + 1) rest.depth
  | .choice _ yes no rest => max (max yes.depth no.depth + 1) rest.depth
  | .loop _ _ body rest => max (body.depth + 1) rest.depth

end Template

end MarkupTemplate
