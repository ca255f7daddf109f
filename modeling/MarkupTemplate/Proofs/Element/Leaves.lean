import MarkupTemplate.Proofs.Element.Made
import MarkupTemplate.Proofs.Forest.Occurrences

/-!
What stands inside texts. The texts that a reader makes itself have nothing inside, but a tag may be
called like a text, and what stands in it, or is given by its attributes, becomes its children. The
markup and the plain text of a text are its content alone. Main statement: a text with children
comes from such a tag of the source, and what it has inside is lost in both.
-/

namespace MarkupTemplate

namespace Element

/-- A text has nothing inside. -/
def Leaf (element : Element) : Prop := element.kind = textKind → element.children = []

/-- The piece is a tag that is called like a text. -/
def isTextTag : Piece → Bool
  | .text _ => false
  | .token token => token.bracket == .angle && token.name == textKind

/-- Such a tag among the pieces gives the element, in some scope and around some children. -/
def OfTextTag (reader : Reader) (pieces : List Piece) (element : Element) : Prop :=
  ∃ token scope children, .token token ∈ pieces ∧ isTextTag (.token token) = true ∧
    element = new textKind (readAttrs reader.templated (Scope.interpolate scope) token.extra)
      children

def LeafOrTag (reader : Reader) (source : String) (element : Element) : Prop :=
  element.Leaf ∨ element.OfTextTag reader (tokenize reader.templated source)

mutual

/-- The same element with nothing inside its texts. -/
def emptied : Element → Element
  | ⟨kind, attrs, children⟩ =>
      ⟨kind, attrs, if kind = textKind then [] else emptiedAll children⟩

def emptiedAll : List Element → List Element
  | [] => []
  | element :: rest => emptied element :: emptiedAll rest

end

theorem emptied_all_empty (elements : List Element) :
    (emptiedAll elements).isEmpty = elements.isEmpty := by
  cases elements <;> rfl

mutual

theorem markup_emptied : (element : Element) → markup (emptied element) = markup element
  | ⟨kind, attrs, children⟩ => by
      by_cases text : kind = textKind
      · rw [emptied, markup, markup, if_pos text, if_pos text]
      · rw [emptied, markup, markup, if_neg text, if_neg text, if_neg text, emptied_all_empty,
          all_markup_emptied children]

theorem all_markup_emptied :
    (elements : List Element) → allMarkup (emptiedAll elements) = allMarkup elements
  | [] => rfl
  | element :: rest => by
      rw [emptiedAll, allMarkup, allMarkup, markup_emptied element, all_markup_emptied rest]

end

mutual

theorem plain_text_emptied : (element : Element) → plainText (emptied element) = plainText element
  | ⟨kind, attrs, children⟩ => by
      by_cases text : kind = textKind
      · rw [emptied, plainText, plainText, if_pos text, if_pos text]
      · rw [emptied, plainText, plainText, if_neg text, if_neg text, if_neg text,
          all_plain_text_emptied children]

theorem all_plain_text_emptied :
    (elements : List Element) → allPlainText (emptiedAll elements) = allPlainText elements
  | [] => rfl
  | element :: rest => by
      rw [emptiedAll, allPlainText, allPlainText, plain_text_emptied element,
        all_plain_text_emptied rest]

end

theorem emptied_all_leaves (elements : List Element)
    (leaves : ∀ element ∈ elements, emptied element = element) :
    emptiedAll elements = elements := by
  induction elements with
  | nil => rfl
  | cons element rest ih =>
      rw [emptiedAll, leaves element List.mem_cons_self,
        ih fun other member => leaves other (List.mem_cons_of_mem element member)]

theorem emptied_leaf (element : Element) (leaf : Throughout Leaf element) :
    emptied element = element := by
  induction leaf with
  | intro element here _ ih =>
      cases element with
      | mk kind attrs children =>
          rw [emptied, emptied_all_leaves children ih]
          by_cases text : kind = textKind
          · have nothing : children = [] := here text
            rw [if_pos text, nothing]
          · rw [if_neg text]

end Element

open Element

section

variable (reader : Reader) (source : String)
  (directives : reader.directives.Give (Throughout (LeafOrTag reader source)))

include directives

theorem leaf_or_tag_grades :
    reader.Grades (fun token => .token token ∈ tokenize reader.templated source)
      fun _ => Throughout (LeafOrTag reader source) := by
  have text : ∀ content, Throughout (LeafOrTag reader source) (ofText content) := fun content =>
    .intro _ (Or.inl fun _ => rfl) nofun
  constructor
  · exact fun _ => text
  · exact fun _ _ throughout => throughout
  · intro _ token scope children member angle inner
    constructor
    · by_cases named : token.name = textKind
      · have tag : isTextTag (.token token) = true := by simp [isTextTag, angle, named]
        exact Or.inr ⟨token, scope, children, member, tag, by rw [named]⟩
      · exact Or.inl fun same => (named same).elim
    · intro child inside
      rcases List.mem_append.mp inside with added | given
      · rcases attr_children_texts _ child added with ⟨content, rfl⟩
        exact text content
      · exact inner child given
  · exact fun _ => directives

theorem render_leaf_or_tag (context : Dict Value) :
    ∀ element ∈ reader.render source context, Throughout (LeafOrTag reader source) element := by
  have forest := Reader.admitted_gives (leaf_or_tag_grades reader source directives)
    (fold (tokenize reader.templated source)) _ (Nat.le_refl _) fun token member =>
      mem_fold _ _ member
  exact forest (.root context)

end

/-- A text that has children comes from a tag of the source that is called like a text. Markup and
plain text are the same without these children, and without such a tag there are none. -/
theorem text_children_from_tags (reader : Reader) (source : String) (context : Dict Value)
    (directives : reader.directives.Give (Throughout (LeafOrTag reader source))) :
    (∀ element ∈ reader.render source context, Throughout (LeafOrTag reader source) element) ∧
      allMarkup (emptiedAll (reader.render source context)) =
        allMarkup (reader.render source context) ∧
      allPlainText (emptiedAll (reader.render source context)) =
        allPlainText (reader.render source context) ∧
      ((∀ piece ∈ tokenize reader.templated source, isTextTag piece = false) →
        emptiedAll (reader.render source context) = reader.render source context) := by
  have produced := render_leaf_or_tag reader source directives context
  refine ⟨produced, all_markup_emptied _, all_plain_text_emptied _, ?_⟩
  intro untagged
  apply emptied_all_leaves
  intro element member
  apply emptied_leaf
  apply throughout_imp (LeafOrTag reader source) _ _ element (produced element member)
  rintro part (leaf | ⟨token, _, _, among, tag, _⟩)
  · exact leaf
  · rw [untagged _ among] at tag
    cases tag

def titledLink : String := "<a title=\x7bx\x7d>\x7bx\x7d</a>"

theorem text_children_from_tags_link :
    Reader.template.directives.Give (Throughout (LeafOrTag .template titledLink)) ∧
      (∀ piece ∈ tokenize true titledLink, isTextTag piece = false) ∧
      emptiedAll (render titledLink [("x", .int 1)]) = render titledLink [("x", .int 1)] := by
  have directives := builtins_give (Throughout (LeafOrTag .template titledLink))
  have untagged : ∀ piece ∈ tokenize true titledLink, isTextTag piece = false := by decide +kernel
  have kept := text_children_from_tags .template titledLink [("x", .int 1)] directives
  exact ⟨directives, untagged, kept.2.2.2 untagged⟩

/-- A tag that is called like a text keeps the text inside, and its markup is empty. -/
theorem text_tag_keeps_child :
    (∃ element ∈ parse "<text>abc</text>", ¬ Throughout Leaf element) ∧
      allMarkup (parse "<text>abc</text>") = "" := by
  have shape : (parse "<text>abc</text>").map
      (fun element => (element.kind, element.children.map plainText)) = [("text", ["abc"])] := by
    decide +kernel
  constructor
  · rcases List.map_eq_singleton_iff.mp shape with ⟨element, whole, same⟩
    refine ⟨element, by rw [whole]; exact List.mem_cons_self, ?_⟩
    rintro ⟨_, leaf, _⟩
    have inside : element.children.map plainText = ["abc"] := congrArg Prod.snd same
    rw [leaf (congrArg Prod.fst same)] at inside
    cases inside
  · decide +kernel

end MarkupTemplate
