import MarkupTemplate.Proofs.Element.Normal
import MarkupTemplate.Proofs.Template.Parts

/-!
The elements that a program can get hold of. The parts of an element cannot be written from outside,
so every element comes from a constructor, from a value, from markup or from a template, by way of
directives that are bound to the same means. Main statement: each of them, with everything inside
it, has the normal form, and so is built again from its own parts.
-/

namespace MarkupTemplate

namespace Element

/-- This holds of the element and of everything inside it. -/
inductive Throughout (holds : Element → Prop) : Element → Prop
  | intro (element : Element) : holds element →
      (∀ child ∈ element.children, Throughout holds child) → Throughout holds element

/-- Elements of the slots of a block, whatever scope they are produced in. -/
def OfSlots (slots : Dict Body) (element : Element) : Prop :=
  ∃ name scope, element ∈ slotBody slots name scope

/-- The elements that can be made when some are given. A directive of a reader is given those of its
slots. -/
inductive Made : (Element → Prop) → Element → Prop
  | given (source : Element → Prop) (element : Element) : source element → Made source element
  | new (source : Element → Prop) (kind : String) (attrs : List (String × Value))
      (children : List Element) : (∀ child ∈ children, Made source child) →
      Made source (new kind attrs children)
  | text (source : Element → Prop) (content : String) : Made source (ofText content)
  | scalar (source : Element → Prop) (value : Value) (element : Element) :
      ofScalar? value = some element → Made source element
  | value (source : Element → Prop) (value : Value) (element : Element) :
      element ∈ ofValue value → Made source element
  | push (source : Element → Prop) (element child : Element) : Made source element →
      Made source child → Made source (element.push child)
  | child (source : Element → Prop) (element child : Element) : Made source element →
      child ∈ element.children → Made source child
  | parsed (source : Element → Prop) (text : String) (element : Element) :
      element ∈ parse text → Made source element
  | rendered (source : Element → Prop) (text : String) (context : Dict Value) (element : Element) :
      element ∈ render text context → Made source element
  | read (source : Element → Prop) (reader : Reader) (text : String) (context : Dict Value)
      (element : Element) :
      (∀ name directive, Dict.find name reader.directives = some directive →
        ∀ token slots scope, ∀ produced ∈ directive token slots scope,
          Made (OfSlots slots) produced) →
      element ∈ reader.render text context → Made source element

theorem throughout_imp (holds other : Element → Prop)
    (imp : ∀ element, holds element → other element) (element : Element)
    (throughout : Throughout holds element) : Throughout other element := by
  induction throughout with
  | intro element here _ ih => exact .intro element (imp element here) ih

theorem text_throughout (content : String) : Throughout Normal (ofText content) :=
  .intro _ (text_normal content) nofun

theorem new_throughout (kind : String) (attrs : List (String × Value)) (children : List Element)
    (inner : ∀ child ∈ children, Throughout Normal child) :
    Throughout Normal (new kind attrs children) := by
  constructor
  · exact new_normal kind attrs children
  · intro child member
    rcases List.mem_append.mp member with added | given
    · obtain ⟨content, rfl⟩ := attr_children_texts attrs child added
      exact text_throughout content
    · exact inner child given

theorem push_throughout (element child : Element) (outer : Throughout Normal element)
    (inner : Throughout Normal child) : Throughout Normal (element.push child) := by
  obtain ⟨_, here, before⟩ := outer
  constructor
  · exact ⟨here.keys, here.present, here.moved, here.filled⟩
  · intro other member
    rcases List.mem_append.mp member with held | added
    · exact before other held
    · rw [List.mem_singleton.mp added]
      exact inner

theorem throughout_graded : Graded fun _ => Throughout Normal := by
  constructor
  · exact fun _ => text_throughout
  · exact fun _ _ normal => normal
  · exact fun _ => new_throughout

theorem read_throughout (reader : Reader) (text : String) (context : Dict Value)
    (directives : reader.directives.Give (Throughout Normal)) :
    ∀ element ∈ reader.render text context, Throughout Normal element := by
  have forest := Reader.forest_gives reader throughout_graded (fun _ => directives)
    (fold (tokenize reader.templated text)) _ (Nat.le_refl _)
  exact forest (.root context)

/-- Whatever is made of normal elements is normal throughout. -/
theorem made_throughout (source : Element → Prop) (element : Element) (made : Made source element)
    (given : ∀ other, source other → Throughout Normal other) : Throughout Normal element := by
  induction made with
  | given source element held => exact given element held
  | new source kind attrs children _ ih =>
      exact new_throughout kind attrs children fun child member => ih child member given
  | text source content => exact text_throughout content
  | scalar source value element made =>
      obtain ⟨content, rfl⟩ := of_scalar_text value element made
      exact text_throughout content
  | value source value element member =>
      obtain ⟨content, rfl⟩ := of_value_texts value element member
      exact text_throughout content
  | push source element child _ _ outer inner =>
      exact push_throughout element child (outer given) (inner given)
  | child source element child _ member ih =>
      obtain ⟨_, _, inner⟩ := ih given
      exact inner child member
  | parsed source text element member =>
      exact read_throughout .plain text [] (builtins_give _) element member
  | rendered source text context element member =>
      exact read_throughout .template text context (builtins_give _) element member
  | read source reader text context element _ member ih =>
      apply read_throughout reader text context _ element member
      intro name directive found token slots inner scope produced inside
      apply ih name directive found token slots scope produced inside
      rintro other ⟨slot, place, held⟩
      exact inner slot place other held

/-- An element that a program can make has the normal form at every depth, and is built again from
what it shows of itself there. -/
theorem made_elements_normal (element : Element) (made : Made (fun _ => False) element) :
    Throughout (fun part => part.Normal ∧ new part.kind part.attrs part.children = part)
      element := by
  apply throughout_imp Normal
  · intro part normal
    exact ⟨normal, normal_rebuilt part normal⟩
  · exact made_throughout _ element made fun _ none => none.elim

/-- A text with content under the other name, with a key in two spellings, with a value that is
null, and with children in an attribute and behind it. -/
def spelledText : Element :=
  (new textKind [("data-id", .int 1), ("content", .string "x"), ("data_id", .int 2),
    ("no_one", .null), ("children", .list [.bool true, .string "", .null])] []).push (ofText "y")

example : spelledText =
    ⟨"text", [("dataId", .int 2), ("text", .string "x")], [ofText "true", ofText "y"]⟩ := rfl

theorem made_elements_normal_spelled :
    Made (fun _ => False) spelledText ∧
      Throughout (fun part => part.Normal ∧ new part.kind part.attrs part.children = part)
        spelledText := by
  have made : Made (fun _ => False) spelledText := by
    apply Made.push
    · exact .new _ textKind _ [] nofun
    · exact .text _ "y"
  exact ⟨made, made_elements_normal spelledText made⟩

end Element

end MarkupTemplate
