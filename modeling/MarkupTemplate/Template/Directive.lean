import MarkupTemplate.Element.Basic
import MarkupTemplate.Template.Interpolation
import MarkupTemplate.Token.Basic

/-!
Block directives. The slots of a block are given as what they produce in a
scope; a directive chooses slots and scopes. The built-in ones are the conditional `if` and
the loop `each`.
-/

namespace MarkupTemplate

/-- What a part of a template produces in a scope. -/
abbrev Body := Scope → List Element

abbrev Directive := Token → Dict Body → Body

abbrev Directives := Dict Directive

/-- What a slot produces; nothing where the block does not have it. -/
def slotBody (slots : Dict Body) (name : String) : Body := fun scope =>
  match Dict.find name slots with
  | some body => body scope
  | none => []

def elseSlot : String := "else"

/-- Produces the default slot where the condition is truthy, otherwise the slot `else`. -/
def ifDirective : Directive := fun token slots scope =>
  let chosen := if (scope.evaluate token.extra).isTruthy then defaultSlot else elseSlot
  slotBody slots chosen scope

/-- The blanks, the word `as` and blanks at the start of a text, counted. -/
def asWord? (text : List Char) : Option Nat :=
  match text.dropWhile isBlank with
  | 'a' :: 's' :: rest =>
      if text.takeWhile isBlank ≠ [] ∧ rest.takeWhile isBlank ≠ [] then
        some ((text.takeWhile isBlank).length + 2 + (rest.takeWhile isBlank).length)
      else none
  | _ => none

/-- Splits the text of a loop at the first word `as`. -/
def splitAs : List Char → Option (List Char × List Char)
  | [] => none
  | c :: rest =>
      match asWord? (c :: rest) with
      | some length => some ([], (c :: rest).drop length)
      | none => (splitAs rest).map fun (before, after) => (c :: before, after)

/-- Produces the default slot once for every item, under the given name. -/
def eachDirective : Directive := fun token slots scope =>
  match splitAs token.extra.toList with
  | none => []
  | some (items, name) =>
      match (scope.interpolate (String.ofList items)).loopItems with
      | none => []
      | some values =>
          values.flatMap fun value =>
            slotBody slots defaultSlot (scope.child (String.ofList (trim name)) value)

def builtins : Directives := [("if", ifDirective), ("each", eachDirective)]

/-- Produces the default slot where the condition is not truthy. -/
def unlessDirective : Directive := fun token slots scope =>
  if (scope.evaluate token.extra).isTruthy then [] else slotBody slots defaultSlot scope

/-- Produces the slot that its text names. -/
def slotDirective : Directive := fun token slots scope =>
  slotBody slots (trimText token.extra) scope

end MarkupTemplate
