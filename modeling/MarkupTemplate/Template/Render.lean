import MarkupTemplate.Forest
import MarkupTemplate.Template.Attribute
import MarkupTemplate.Template.Directive
import MarkupTemplate.Token.Scan

/-!
Rendering. Text becomes a text element, a tag an element with its attributes
and the elements of its default slot, a directive without a name the texts of its value, and any
other directive what the table says of its name; an unknown name produces nothing.
-/

namespace MarkupTemplate

/-- How a source is read: with or without directives, and which ones. -/
structure Reader where
  templated : Bool
  directives : Directives

namespace Reader

def plain : Reader := ⟨false, builtins⟩

def template : Reader := ⟨true, builtins⟩

/-- What a token produces, given what its slots produce. -/
def tokenBody (reader : Reader) (token : Token) (slots : Dict Body) : Body := fun scope =>
  match token.bracket with
  | .angle =>
      [Element.new token.name (readAttrs reader.templated scope.interpolate token.extra)
        (slotBody slots defaultSlot scope)]
  | .curly =>
      if token.name = "" then Element.ofValue (scope.interpolate token.extra)
      else
        match Dict.find token.name reader.directives with
        | some directive => directive token slots scope
        | none => []

mutual

def nodeBody (reader : Reader) : Node → Body
  | .text content => fun _ => [Element.ofText content]
  | .token token slots => reader.tokenBody token (slotBodies reader slots)

def forestBody (reader : Reader) : List Node → Body
  | [] => fun _ => []
  | node :: rest => fun scope => nodeBody reader node scope ++ forestBody reader rest scope

def slotBodies (reader : Reader) : List (String × List Node) → Dict Body
  | [] => []
  | (name, nodes) :: rest => (name, forestBody reader nodes) :: slotBodies reader rest

end

theorem forest_cons (reader : Reader) (node : Node) (rest : List Node) (scope : Scope) :
    reader.forestBody (node :: rest) scope =
      reader.nodeBody node scope ++ reader.forestBody rest scope := rfl

/-- The elements of a source in a context. -/
def render (reader : Reader) (source : String) (context : Dict Value) : List Element :=
  reader.forestBody (fold (tokenize reader.templated source)) (.root context)

end Reader

/-- Renders a template. -/
def render (source : String) (context : Dict Value) : List Element :=
  Reader.template.render source context

/-- Reads plain markup, in which curly brackets are text. -/
def parse (source : String) : List Element := Reader.plain.render source []

end MarkupTemplate
