import MarkupTemplate.Binding.Error
import MarkupTemplate.Element.Basic

/-!
Registries build typed nodes from elements. A tag is registered once, with the
constructor of its nodes; an alias shares the constructor that its tag has at that time. Where
no constructor is registered a fallback may build the node. An error names the tag
it happened in and all tags around it.
-/

namespace MarkupTemplate

/-- Typed nodes take further nodes as children. -/
class TypedNode (α : Type) where
  tag : α → String
  push : α → α → α
  markup : α → String
  plainText : α → String

abbrev Constructor (α : Type) := Dict Value → Except BindError α

abbrev Fallback (α : Type) := String → Constructor α

structure Registry (α : Type) where
  constructors : Dict (Constructor α)
  fallback : Option (Fallback α)

inductive RegistryError where
  | alreadyRegistered (tag : String)
  | unknownTag (tag : String)
  deriving DecidableEq

inductive TransformError where
  | bind (tag : String) (error : BindError)
  | unregistered (tag : String)
  | child (tag : String) (error : TransformError)

def RegistryError.message : RegistryError → String
  | .alreadyRegistered tag => "tag <" ++ tag ++ "> is already registered"
  | .unknownTag tag => "cannot alias unregistered tag <" ++ tag ++ ">"

def TransformError.message : TransformError → String
  | .bind tag error => "cannot build <" ++ tag ++ ">: " ++ error.message
  | .unregistered tag => "no element registered for <" ++ tag ++ ">"
  | .child tag error => "in <" ++ tag ++ ">: " ++ error.message

namespace Registry

variable {α : Type}

def empty : Registry α := ⟨[], none⟩

def withFallback (fallback : Fallback α) (registry : Registry α) : Registry α :=
  { registry with fallback := some fallback }

def contains (tag : String) (registry : Registry α) : Bool :=
  (Dict.find tag registry.constructors).isSome

/-- Registers a tag. With the outcome goes the registry that is left, also where the tag is
refused. -/
def register (tag : String) (constructor : Constructor α) (registry : Registry α) :
    Except RegistryError Unit × Registry α :=
  if registry.contains tag then (.error (.alreadyRegistered tag), registry)
  else
    (.ok (), { registry with constructors := Dict.insert tag constructor registry.constructors })

/-- Lets a tag build what another one builds. -/
def registerAlias (alternative tag : String) (registry : Registry α) :
    Except RegistryError Unit × Registry α :=
  match Dict.find tag registry.constructors with
  | none => (.error (.unknownTag tag), registry)
  | some constructor => registry.register alternative constructor

/-- What a registration leaves, where it was not refused. -/
def completed : Except RegistryError Unit × Registry α → Except RegistryError (Registry α)
  | (.ok (), left) => .ok left
  | (.error error, _) => .error error

/-- Builds a node without its children. -/
def construct (registry : Registry α) (tag : String) (attrs : Dict Value) :
    Except TransformError α :=
  match Dict.find tag registry.constructors, registry.fallback with
  | some constructor, _ => (constructor attrs).mapError (.bind tag)
  | none, some fallback => (fallback tag attrs).mapError (.bind tag)
  | none, none => .error (.unregistered tag)

variable [TypedNode α]

def pushAll (node : α) (children : List α) : α :=
  children.foldl (fun parent child => TypedNode.push child parent) node

mutual

/-- Builds the node of an element, and then its children. -/
def transformElement (registry : Registry α) : Element → Except TransformError α
  | ⟨kind, attrs, children⟩ => do
      let node ← registry.construct kind attrs
      let built ← (transform registry children).mapError (.child kind)
      return pushAll node built

/-- Builds the nodes of elements, in order. -/
def transform (registry : Registry α) : List Element → Except TransformError (List α)
  | [] => .ok []
  | element :: rest => do
      let node ← transformElement registry element
      let nodes ← transform registry rest
      return node :: nodes

end

/-- The markup of typed nodes one after another. -/
def markup (nodes : List α) : String := String.join (nodes.map TypedNode.markup)

def plainText (nodes : List α) : String := String.join (nodes.map TypedNode.plainText)

end Registry

end MarkupTemplate
