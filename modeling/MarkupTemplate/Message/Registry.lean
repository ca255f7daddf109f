import MarkupTemplate.Message.Record

/-!
The standard registry of message elements, and the way back from a message
element to a plain one. Some tags have a second name, and every unknown tag becomes an extension.
-/

namespace MarkupTemplate

namespace MessageElement

mutual

/-- The plain element of a message element; attributes that are absent are left out. -/
def toElement : MessageElement → Element
  | ⟨kind, children⟩ => .new kind.tag kind.attrs (toElements children)

def toElements : List MessageElement → List Element
  | [] => []
  | element :: rest => toElement element :: toElements rest

end

instance : TypedNode MessageElement where
  tag element := element.kind.tag
  push child parent := { parent with children := parent.children ++ [child] }
  markup element := element.toElement.markup
  plainText element := element.toElement.plainText

end MessageElement

namespace Message

def leaf (kind : Kind) : MessageElement := ⟨kind, []⟩

/-- Builds a kind from a record that is bound first. -/
def bound (type : RecordType) (kind : List Datum → Kind) : Constructor MessageElement :=
  fun attrs => do
    let data ← type.bind schema attrs
    return leaf (kind data)

/-- Builds a kind that has no attributes. -/
def unit (kind : Kind) : Constructor MessageElement := fun _ => .ok (leaf kind)

def extension : Fallback MessageElement := fun tag attrs => .ok (leaf (.extension tag attrs))

def media : List Medium := [.image, .audio, .video, .file]

def styles : List Style :=
  [.bold, .italic, .underlined, .struck, .spoiler, .code, .superscript, .subscript]

def constructors : List (String × Constructor MessageElement) :=
  [("text", bound textType fun data => .text (stringAt data 0)),
   ("at", bound atType fun data => .at (.ofData data)),
   ("sharp", bound sharpType fun data => .sharp (.ofData data)),
   ("a", bound linkType fun data => .link (stringAt data 0)),
   ("message", bound envelopeType fun data => .message (.ofData data)),
   ("author", bound authorType fun data => .author (.ofData data))] ++
  media.map (fun medium =>
    (medium.tag, bound resourceType fun data => .resource medium (.ofData data))) ++
  styles.map (fun style => (style.tag, unit (.styled style))) ++
  [("br", unit .lineBreak), ("p", unit .paragraph), ("quote", unit .quote)]

/-- Second names, each with the tag that it stands for. -/
def alternatives : List (String × String) :=
  [("strong", "b"), ("em", "i"), ("ins", "u"), ("del", "s"), ("image", "img")]

def registerAll (table : List (String × Constructor MessageElement))
    (registry : Registry MessageElement) : Except RegistryError (Registry MessageElement) :=
  table.foldlM (fun known entry => Registry.completed (known.register entry.1 entry.2)) registry

def registerAlternatives (table : List (String × String)) (registry : Registry MessageElement) :
    Except RegistryError (Registry MessageElement) :=
  table.foldlM (fun known entry => Registry.completed (known.registerAlias entry.1 entry.2)) registry

/-- The registry of all standard message elements. -/
def registry : Except RegistryError (Registry MessageElement) := do
  let known ← registerAll constructors (Registry.empty.withFallback extension)
  registerAlternatives alternatives known

end Message

end MarkupTemplate
