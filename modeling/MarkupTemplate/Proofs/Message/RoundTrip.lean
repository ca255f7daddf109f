import MarkupTemplate.Message.Equality
import MarkupTemplate.Proofs.Message.Kinds

/-!
Messages over the wire. Canonical messages are those that markup can tell apart: texts are not
empty, do not touch, and keep their line breaks inside; the tag of an extension is no other tag, and
its attributes can be written. Main statement: the registry builds the same messages from their
markup.
-/

namespace MarkupTemplate

open Message

/-- A kind other than a text that its markup leads back to. -/
def Message.Kind.Canonical : Kind → Prop
  | .text _ => False
  | .extension tag attrs =>
      tag ∉ reserved ∧ IsWord nameMarks tag.toList ∧ Element.CanonicalAttrs attrs
  | _ => True

namespace MessageElement

def startsWithText : List MessageElement → Bool
  | ⟨.text _, _⟩ :: _ => true
  | _ => false

inductive Canonical : List MessageElement → Prop where
  | nil : Canonical []
  | text (content : String) (rest : List MessageElement) : content.toList ≠ [] →
      ¬ Scan.StartsWithBreak content.toList → ¬ Scan.EndsWithBreak content.toList →
      startsWithText rest = false → Canonical rest → Canonical (leaf (.text content) :: rest)
  | node (kind : Kind) (children rest : List MessageElement) : kind.Canonical →
      Canonical children → Canonical rest → Canonical (⟨kind, children⟩ :: rest)

mutual

/-- How many elements with children stand inside each other. -/
def depth : MessageElement → Nat
  | ⟨_, children⟩ => if children.isEmpty then 0 else allDepth children + 1

def allDepth : List MessageElement → Nat
  | [] => 0
  | element :: rest => max (depth element) (allDepth rest)

end

mutual

/-- The same message with the attributes of its extensions in the order in which they arrive. -/
def arranged : MessageElement → MessageElement
  | ⟨kind, children⟩ => ⟨kind.arranged, arrangedAll children⟩

def arrangedAll : List MessageElement → List MessageElement
  | [] => []
  | element :: rest => arranged element :: arrangedAll rest

end

theorem kind_equals (kind : Kind) (canonical : kind.Canonical) :
    kind.arranged.equals kind = true := by
  cases kind with
  | text => cases canonical
  | extension tag attrs =>
      simp [Kind.arranged, Kind.equals, Element.ascending_equals attrs canonical.2.2]
  | «at» | sharp | link | resource | styled | lineBreak | paragraph | message | quote | author =>
      simp [Kind.arranged, Kind.equals]

theorem arranged_equals (nodes : List MessageElement) (canonical : Canonical nodes) :
    allEqual (arrangedAll nodes) nodes = true := by
  induction canonical with
  | nil => rfl
  | text content rest _ _ _ _ _ ih =>
      simp [arrangedAll, arranged, leaf, allEqual, equals, Kind.arranged, Kind.equals, ih]
  | node kind children rest canonical _ _ childrenIh restIh =>
      simp [arrangedAll, arranged, allEqual, equals, kind_equals kind canonical, childrenIh, restIh]

theorem kind_arrives (kind : Kind) (canonical : kind.Canonical) : Arrives kind := by
  cases kind with
  | text => cases canonical
  | «at» mention => exact carried_arrives _ _ _ _ (at_carried mention) rfl
  | sharp channel => exact carried_arrives _ _ _ _ (sharp_carried channel) rfl
  | link href => exact carried_arrives _ _ _ _ (link_carried href) rfl
  | resource medium file => exact carried_arrives _ _ _ _ (resource_carried medium file) rfl
  | styled style => exact no_attrs_arrives _ rfl (by cases style <;> rfl) rfl
  | lineBreak => exact no_attrs_arrives _ rfl rfl rfl
  | paragraph => exact no_attrs_arrives _ rfl rfl rfl
  | message envelope => exact carried_arrives _ _ _ _ (message_carried envelope) rfl
  | quote => exact no_attrs_arrives _ rfl rfl rfl
  | author writer => exact carried_arrives _ _ _ _ (author_carried writer) rfl
  | extension tag attrs => exact extension_arrives tag attrs canonical.1 canonical.2.2

theorem kind_tag (kind : Kind) (canonical : kind.Canonical) :
    kind.tag ≠ Element.textKind ∧ IsWord nameMarks kind.tag.toList := by
  cases kind with
  | text => cases canonical
  | extension tag attrs => exact ⟨extension_not_text tag canonical.1, canonical.2.1⟩
  | resource medium => cases medium <;> simp only [Kind.tag, Medium.tag] <;> decide
  | styled style => cases style <;> simp only [Kind.tag, Style.tag] <;> decide
  | «at» | sharp | link | lineBreak | paragraph | message | quote | author =>
      simp only [Kind.tag]
      decide

theorem markup_elements (nodes : List MessageElement) :
    Registry.markup nodes = Element.allMarkup (toElements nodes) := by
  induction nodes with
  | nil => rfl
  | cons node rest ih =>
      rw [toElements, Element.allMarkup, ← ih, Registry.markup, List.map_cons, String.join_cons]
      rfl

theorem push_all (kind : Kind) (before after : List MessageElement) :
    Registry.pushAll ⟨kind, before⟩ after = ⟨kind, before ++ after⟩ := by
  induction after generalizing before with
  | nil => rw [List.append_nil]; rfl
  | cons node rest ih =>
      have step := ih (before ++ [node])
      rw [List.append_assoc] at step
      exact step

/-- The elements that arrive of messages. -/
def sent (nodes : List MessageElement) : List Element := Element.spelledAll (toElements nodes)

theorem text_attrs (content : String) :
    (Kind.text content).attrs = [(Element.textKey, .string content)] :=
  attrs_shown textType (plain_records textType List.mem_cons_self) [.ofString content]

theorem text_kept (content : String) :
    Element.keptAttrs [(Element.textKey, .string content)] =
      [(Element.textKey, .string content)] := by
  have camel : camelCase Element.textKey = Element.textKey := by decide
  have other : Element.textKey ≠ Element.childrenKey := by decide
  simp [Element.keptAttrs, Value.isNull, camel, other, Dict.ofList, Dict.insertAll, Dict.insert]

theorem text_element (content : String) : toElement (leaf (.text content)) = .ofText content := by
  have plain : Element.withContent [(Element.textKey, .string content)] =
      [(Element.textKey, .string content)] := rfl
  have alone : Element.attrChildren [(Element.textKey, .string content)] = [] := rfl
  have tag : (Kind.text content).tag = Element.textKind := rfl
  rw [leaf, toElement, text_attrs, Element.new, text_kept, tag, if_pos rfl, plain, alone]
  rfl

theorem sent_text (content : String) (rest : List MessageElement) :
    sent (leaf (.text content) :: rest) = .ofText content :: sent rest := by
  rw [sent, toElements, text_element]
  rfl

theorem sent_node (kind : Kind) (children rest : List MessageElement) (canonical : kind.Canonical) :
    sent (⟨kind, children⟩ :: rest) =
      ⟨kind.tag, Element.sentAttrs kind.attrs, sent children⟩ :: sent rest := by
  have plain := (kind_arrives kind canonical).plain
  have other := (kind_tag kind canonical).1
  rw [sent, toElements, toElement, Element.new_named _ _ _ other plain.named]
  rfl

theorem sent_starts (nodes : List MessageElement) (canonical : Canonical nodes) :
    Element.startsWithText (sent nodes) = startsWithText nodes := by
  cases canonical with
  | nil => rfl
  | text content rest => rw [sent_text]; rfl
  | node kind children rest kindCanonical =>
      have other := (kind_tag kind kindCanonical).1
      rw [sent_node kind children rest kindCanonical]
      cases kind with
      | text => cases kindCanonical
      | _ => exact beq_false_of_ne other

theorem sent_canonical (nodes : List MessageElement) (canonical : Canonical nodes) :
    Element.Canonical (sent nodes) := by
  induction canonical with
  | nil => exact .nil
  | text content rest filled start finish apart later ih =>
      rw [sent_text]
      exact .text content _ filled start finish ((sent_starts rest later).trans apart) ih
  | node kind children rest kindCanonical _ _ childrenIh restIh =>
      obtain ⟨other, word⟩ := kind_tag kind kindCanonical
      rw [sent_node kind children rest kindCanonical]
      have arrives := kind_arrives kind kindCanonical
      exact .element _ _ _ _ other word arrives.canonical childrenIh restIh

theorem sent_depth (nodes : List MessageElement) (canonical : Canonical nodes) :
    Element.allDepth (sent nodes) = allDepth nodes := by
  induction canonical with
  | nil => rfl
  | text content rest _ _ _ _ _ ih =>
      rw [sent_text, Element.allDepth, ih]
      rfl
  | node kind children rest kindCanonical _ _ childrenIh restIh =>
      have leaf : (sent children).isEmpty = children.isEmpty := by cases children <;> rfl
      rw [sent_node kind children rest kindCanonical, Element.allDepth, Element.depth, leaf,
        childrenIh, restIh]
      rfl

theorem transform_sent (nodes : List MessageElement) (canonical : Canonical nodes) :
    standard.transform (Element.arrangedAll (sent nodes)) = .ok (arrangedAll nodes) := by
  induction canonical with
  | nil => rfl
  | text content rest _ _ _ _ _ ih =>
      have built := (carried_arrives _ _ _ _ (text_carried content) rfl).built
      rw [text_attrs, Element.sentAttrs, text_kept] at built
      have arranged : Element.arranged (.ofText content) = ⟨(Kind.text content).tag,
          Dict.ascending (Element.spelledAttrs [(Element.textKey, .string content)]), []⟩ := rfl
      rw [sent_text, Element.arrangedAll, arranged, Registry.transform, Registry.transformElement,
        built, ih]
      rfl
  | node kind children rest kindCanonical _ _ childrenIh restIh =>
      have built := (kind_arrives kind kindCanonical).built
      rw [sent_node kind children rest kindCanonical, Element.arrangedAll, Element.arranged,
        Registry.transform, Registry.transformElement, built, childrenIh, restIh]
      -- The node is built alone, and then its children are pushed behind it.
      exact congrArg (fun first => Except.ok (first :: arrangedAll rest))
        (push_all kind.arranged [] (arrangedAll children))

/-- Canonical messages come back from their markup. -/
theorem transform_parse_markup (nodes : List MessageElement) (canonical : Canonical nodes)
    (shallow : allDepth nodes ≤ maxDepth - 1) :
    ∃ known built, registry = .ok known ∧
      known.transform (parse (Registry.markup nodes)) = .ok built ∧
      allEqual built nodes = true := by
  -- The markup does not show that a number was no text, so it is also that of what arrives.
  have written : Registry.markup nodes = Element.allMarkup (sent nodes) :=
    (markup_elements nodes).trans (Element.all_markup_spelled _).symm
  have arrives := Element.parse_arranged (sent nodes) (sent_canonical nodes canonical)
    ((sent_depth nodes canonical).symm ▸ shallow)
  refine ⟨standard, arrangedAll nodes, registry_standard, ?_, arranged_equals nodes canonical⟩
  rw [written, arrives]
  exact transform_sent nodes canonical

/-- A mention that is called nothing, an image of the greatest width, and an extension whose
attributes are not in ascending order. -/
def sampleMessage : List MessageElement :=
  [⟨.styled .bold, [leaf (.text "&lt; is <"), leaf (.at ⟨some "1", some "", none, none⟩)]⟩,
    ⟨.resource .image ⟨"a.png", none, some false, some 4294967295, none⟩, []⟩,
    ⟨.extension "chess" [("startMove", .string "\"e4\""), ("isOpen", .bool true)],
      [leaf .lineBreak, leaf (.text "strong")]⟩]

theorem sample_extension :
    Kind.Canonical
      (.extension "chess" [("startMove", .string "\"e4\""), ("isOpen", .bool true)]) := by
  refine ⟨by decide, by decide, by decide, ?_⟩
  intro entry member
  rcases List.mem_cons.mp member with rfl | member
  · exact ⟨by decide, by decide, by decide, Or.inl ⟨_, rfl⟩, fun same => by cases same⟩
  · cases List.mem_singleton.mp member
    exact ⟨by decide, by decide, by decide, Or.inr ⟨_, rfl⟩, fun _ => by decide⟩

theorem sample_message_canonical : Canonical sampleMessage := by
  have spelled := Scan.unbroken_line "&lt; is <".toList (by decide)
  have word := Scan.unbroken_line "strong".toList (by decide)
  have bold : Canonical [leaf (.text "&lt; is <"), leaf (.at ⟨some "1", some "", none, none⟩)] :=
    .text _ _ (by decide) spelled.1 spelled.2 rfl (.node _ [] [] trivial .nil .nil)
  have inside : Canonical [leaf .lineBreak, leaf (.text "strong")] :=
    .node _ [] _ trivial .nil (.text _ [] (by decide) word.1 word.2 rfl .nil)
  exact .node _ _ _ trivial bold
    (.node _ [] _ trivial .nil (.node _ _ [] sample_extension inside .nil))

theorem transform_parse_markup_sample :
    Canonical sampleMessage ∧ allDepth sampleMessage ≤ maxDepth - 1 ∧
      ∃ known built, registry = .ok known ∧
        known.transform (parse (Registry.markup sampleMessage)) = .ok built ∧
        allEqual built sampleMessage = true :=
  ⟨sample_message_canonical, by decide,
    transform_parse_markup sampleMessage sample_message_canonical (by decide)⟩

end MessageElement

end MarkupTemplate
