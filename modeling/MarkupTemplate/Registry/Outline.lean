import MarkupTemplate.Binding.Shapes
import MarkupTemplate.Registry.Basic

/-!
Outlines, the plainest typed nodes: a tag, a text and children. Their
constructors show what a registry hands to a node; some bind a record first.
-/

namespace MarkupTemplate

structure Outline where
  tag : String
  text : String
  children : List Outline

namespace Outline

def leaf (tag text : String) : Outline := ⟨tag, text, []⟩

def textTag : String := "text"

mutual

def markup : Outline → String
  | ⟨tag, text, children⟩ =>
      if tag = textTag then text ++ allMarkup children
      else "[" ++ tag ++ ":" ++ text ++ "]" ++ allMarkup children ++ "[/" ++ tag ++ "]"

def allMarkup : List Outline → String
  | [] => ""
  | outline :: rest => markup outline ++ allMarkup rest

end

mutual

def plainText : Outline → String
  | ⟨_, text, children⟩ => text ++ allPlainText children

def allPlainText : List Outline → String
  | [] => ""
  | outline :: rest => plainText outline ++ allPlainText rest

end

instance : TypedNode Outline where
  tag := tag
  push child parent := { parent with children := parent.children ++ [child] }
  markup := markup
  plainText := plainText

def ofText : Constructor Outline := fun attrs =>
  .ok (leaf textTag (((Dict.find "text" attrs).map Value.display).getD ""))

def ofGroup : Constructor Outline := fun _ => .ok (leaf "group" "")

def ofKeys : Constructor Outline := fun attrs =>
  .ok (leaf "keys" (",".intercalate (Dict.keys attrs)))

/-- The values of a record bound from attributes, by the names of its members. -/
def bound (schema : Schema) (shape : String) (attrs : Dict Value) : Except BindError (Dict Value) :=
  match schema.find shape with
  | none => .ok []
  | some type => do
      let members ← type.bind schema attrs
      return (type.settings.map (·.member)).zip (itemsToValue schema members)

/-- What a member displays; a null one displays `absent`. -/
def shown (members : Dict Value) (name absent : String) : String :=
  match Dict.find name members with
  | none | some .null => absent
  | some value => value.display

def ofKeyed (schema : Schema) : Constructor Outline := fun attrs => do
  let members ← bound schema "Keyed" attrs
  return leaf "keyed" (shown members "key" "")

def ofImage (schema : Schema) : Constructor Outline := fun attrs => do
  let members ← bound schema "Image" attrs
  return leaf "image"
    (shown members "src" "" ++ "|" ++ shown members "width" "0" ++ "|" ++ shown members "alt" "")

/-- A fallback that counts the attributes. -/
def extension : Fallback Outline := fun tag attrs =>
  .ok (leaf tag (String.ofList (numeral 10 attrs.length)))

/-- A fallback that refuses every tag. -/
def deny : Fallback Outline := fun _ _ => .error .noTarget

/-- The constructors by their names. -/
def constructors (schema : Schema) : Dict (Constructor Outline) :=
  [("text", ofText), ("group", ofGroup), ("keys", ofKeys), ("keyed", ofKeyed schema),
   ("image", ofImage schema)]

def fallbacks : Dict (Fallback Outline) := [("extension", extension), ("deny", deny)]

end Outline

end MarkupTemplate
