import MarkupTemplate.Proofs.Element.Made
import MarkupTemplate.Proofs.Message.RoundTrip
import MarkupTemplate.Proofs.Registry.Transform

/-!
Messages that are built a second time. The registry reads attributes under several names and in
several spellings and leaves out what a kind does not have; a kind that it has built writes its
attributes in one way. Main statement: the elements of the messages that were built are built into
the same messages, whatever elements these were built from.
-/

namespace MarkupTemplate

open Message

namespace Element

theorem normal_other_children (kind : String) (attrs : List (String × Value))
    (children others : List Element) (normal : Normal ⟨kind, attrs, children⟩) :
    Normal ⟨kind, attrs, others⟩ := ⟨normal.keys, normal.present, normal.moved, normal.filled⟩

/-- An element keeps under a key what stands there, unless it is null. -/
theorem find_kept (attrs : Dict Value) (plain : PlainKeys attrs) (key : String) :
    Dict.find key (keptAttrs attrs) =
      (Dict.find key attrs).filter fun value => !value.isNull := by
  rw [kept_plain attrs plain,
    Dict.find_filter (fun value => !value.isNull) key attrs plain.distinct]

end Element

namespace Message

/-- The kinds that a registry builds. An extension has a tag of its own, and the attributes of an
element in normal form. -/
def Kind.Settled : Kind → Prop
  | .extension tag attrs => tag ∉ reserved ∧ Element.Normal ⟨tag, attrs, []⟩
  | _ => True

/-- The attributes that an element of the kind keeps are those that the kind is built from. -/
def Kind.Stays (kind : Kind) : Prop :=
  ∃ attrs, (∀ children, Element.new kind.tag kind.attrs children = ⟨kind.tag, attrs, children⟩) ∧
    standard.construct kind.tag attrs = .ok (leaf kind)

theorem bind_kept (type : RecordType) (plain : Plain type) (data : List Datum)
    (comes : List.Forall₂ (Comes id) type.fields data) :
    type.bind schema (Element.keptAttrs (shownEntries type data)) = .ok data := by
  apply bind_carried type plain data id _ _ comes
  intro name
  rw [Element.find_kept _ (shown_plain type plain data), Option.map_id, id]

theorem carried_constructed (kind : Kind) (type : RecordType) (data : List Datum)
    (make : List Datum → Kind) (carried : Carried kind type data make) :
    standard.construct kind.tag (Element.keptAttrs kind.attrs) = .ok (leaf kind) := by
  have plain := plain_records type carried.known
  have shown := carried.attrs.trans (attrs_shown type plain data)
  have built : bound type make (Element.keptAttrs (shownEntries type data)) =
      .ok (leaf (make data)) := by
    rw [bound, bind_kept type plain data (carried.comes _ kept_carries)]
    rfl
  rw [Registry.construct, carried.registered, shown]
  simp only [built, map_error_ok, carried.restored]

theorem carried_stays (kind : Kind) (type : RecordType) (data : List Datum)
    (make : List Datum → Kind) (carried : Carried kind type data make)
    (other : kind.tag ≠ Element.textKind) : kind.Stays := by
  have plain := plain_records type carried.known
  have shown := carried.attrs.trans (attrs_shown type plain data)
  have named : ∀ entry ∈ kind.attrs, entry.1 ≠ Element.childrenKey :=
    shown ▸ (shown_plain type plain data).named
  refine ⟨_, fun children => ?_, carried_constructed kind type data make carried⟩
  exact Element.new_named kind.tag kind.attrs children other named

theorem text_stays (content : String) : Kind.Stays (.text content) := by
  have built := carried_constructed _ _ _ _ (text_carried content)
  rw [MessageElement.text_attrs, MessageElement.text_kept] at built
  refine ⟨_, fun children => ?_, built⟩
  rw [MessageElement.text_attrs]
  have normal := Element.normal_other_children _ _ _ children (Element.text_normal content)
  exact Element.normal_rebuilt _ normal

theorem no_attrs_stays (kind : Kind) (none : kind.attrs = [])
    (registered : Dict.find kind.tag standard.constructors = some (unit kind))
    (other : kind.tag ≠ Element.textKind) : kind.Stays := by
  refine ⟨[], fun children => ?_, ?_⟩
  · rw [none]
    exact Element.new_named kind.tag [] children other nofun
  · rw [Registry.construct, registered]
    rfl

theorem extension_stays (tag : String) (attrs : Dict Value) (free : tag ∉ reserved)
    (normal : Element.Normal ⟨tag, attrs, []⟩) : Kind.Stays (.extension tag attrs) := by
  have absent : Dict.find tag standard.constructors = none :=
    (Dict.find_none_iff _ tag).mpr (standard_keys ▸ free)
  refine ⟨attrs, fun children => ?_, ?_⟩
  · exact Element.normal_rebuilt _ (Element.normal_other_children _ _ _ children normal)
  · have named : (Kind.extension tag attrs).tag = tag := rfl
    rw [named, Registry.construct, absent]
    rfl

theorem kind_stays (kind : Kind) (settled : kind.Settled) : kind.Stays := by
  have other (canonical : kind.Canonical) := (MessageElement.kind_tag kind canonical).1
  cases kind with
  | text content => exact text_stays content
  | «at» mention => exact carried_stays _ _ _ _ (at_carried mention) (other trivial)
  | sharp channel => exact carried_stays _ _ _ _ (sharp_carried channel) (other trivial)
  | link href => exact carried_stays _ _ _ _ (link_carried href) (other trivial)
  | resource medium file =>
      exact carried_stays _ _ _ _ (resource_carried medium file) (other trivial)
  | styled style => exact no_attrs_stays _ rfl (by cases style <;> rfl) (other trivial)
  | lineBreak => exact no_attrs_stays _ rfl rfl (other trivial)
  | paragraph => exact no_attrs_stays _ rfl rfl (other trivial)
  | message envelope => exact carried_stays _ _ _ _ (message_carried envelope) (other trivial)
  | quote => exact no_attrs_stays _ rfl rfl (other trivial)
  | author writer => exact carried_stays _ _ _ _ (author_carried writer) (other trivial)
  | extension tag attrs => exact extension_stays tag attrs settled.1 settled.2

/-- The constructor gives nothing but settled kinds without children. -/
def Settles (constructor : Constructor MessageElement) : Prop :=
  ∀ attrs node, constructor attrs = .ok node → ∃ kind, node = leaf kind ∧ kind.Settled

theorem bound_settles (type : RecordType) (make : List Datum → Kind)
    (settled : ∀ data, (make data).Settled) : Settles (bound type make) := by
  intro attrs node built
  obtain ⟨data, _, made⟩ := bind_ok built
  cases made
  exact ⟨make data, rfl, settled data⟩

theorem unit_settles (kind : Kind) (settled : kind.Settled) : Settles (unit kind) := by
  intro attrs node built
  cases built
  exact ⟨kind, rfl, settled⟩

theorem constructors_settle : ∀ entry ∈ standard.constructors, Settles entry.2 := by
  simp only [standard, constructors, alternativeConstructors, List.forall_mem_append,
    List.forall_mem_cons, List.forall_mem_map]
  refine ⟨⟨⟨⟨⟨?text, ?mention, ?sharp, ?link, ?message, ?author, nofun⟩, fun _ _ => ?resource⟩,
    fun _ _ => ?styled⟩, ?lineBreak, ?paragraph, ?quote, nofun⟩,
    ?strong, ?em, ?ins, ?del, ?image, nofun⟩
  case text | mention | sharp | link | message | author | resource | image =>
    exact bound_settles _ _ fun _ => trivial
  case styled | lineBreak | paragraph | quote | strong | em | ins | del =>
    exact unit_settles _ trivial

theorem construct_settled (tag : String) (attrs : Dict Value) (node : MessageElement)
    (normal : Element.Normal ⟨tag, attrs, []⟩) (built : standard.construct tag attrs = .ok node) :
    ∃ kind, node = leaf kind ∧ kind.Settled := by
  rw [Registry.construct] at built
  cases found : Dict.find tag standard.constructors with
  | some constructor =>
      have registered := Dict.mem_of_find _ _ _ found
      rw [found] at built
      cases made : constructor attrs with
      | error error => simp [made, map_error_error] at built
      | ok other =>
          simp only [made, map_error_ok] at built
          cases built
          exact constructors_settle _ registered attrs _ made
  | none =>
      have free : tag ∉ reserved := standard_keys ▸ (Dict.find_none_iff _ tag).mp found
      rw [found] at built
      cases built
      exact ⟨.extension tag attrs, rfl, free, normal⟩

end Message

namespace MessageElement

theorem assembled_again (elements : List Element) (nodes : List MessageElement)
    (assembles : standard.Assembles elements nodes)
    (normal : ∀ element ∈ elements, Element.Throughout Element.Normal element) :
    standard.transform (toElements nodes) = .ok nodes := by
  induction assembles with
  | nil => rfl
  | node kind attrs children rest node inner others built _ _ innerIh othersIh =>
      obtain ⟨⟨_, here, inside⟩, later⟩ := List.forall_mem_cons.mp normal
      obtain ⟨own, rfl, settled⟩ := construct_settled kind attrs node
        (Element.normal_other_children kind attrs children [] here) built
      obtain ⟨kept, rebuilt, constructed⟩ := kind_stays own settled
      have filled := push_all own [] inner
      rw [Registry.pushAll, List.nil_append] at filled
      rw [leaf, filled, toElements, toElement, rebuilt, Registry.transform,
        Registry.transformElement, constructed, innerIh inside, othersIh later]
      exact congrArg (fun first => Except.ok (first :: others)) (push_all own [] inner)

/-- Messages that are built from elements, whatever these were made of, are built again from their
own elements. -/
theorem transform_again (elements : List Element)
    (made : ∀ element ∈ elements, Element.Made (fun _ => False) element) :
    ∃ known, registry = .ok known ∧ ∀ nodes, known.transform elements = .ok nodes →
      known.transform (toElements nodes) = .ok nodes := by
  refine ⟨standard, registry_standard, fun nodes built => ?_⟩
  have assembles := (standard.transform_ok_iff elements nodes).mp built
  exact assembled_again elements nodes assembles fun element member =>
    Element.made_throughout _ element (made element member) fun _ none => none.elim

/-- A second name with an attribute that is dropped, a text under its other name that is a number, a
width with a fraction, and an extension with keys in another spelling. -/
def sampleElements : List Element :=
  [.new "strong" [("title", .int 1)] [.new "text" [("content", .int 5)] []],
    .new "image" [("src", .bool true), ("width", .float ⟨0x4012000000000000⟩)] [],
    .new "chess" [("start-move", .null), ("is_open", .float .nan)] [.ofText "e4"]]

def sampleNodes : List MessageElement :=
  [⟨.styled .bold, [leaf (.text "5")]⟩,
    leaf (.resource .image ⟨"true", none, none, some 4, none⟩),
    ⟨.extension "chess" [("isOpen", .float .nan)], [leaf (.text "e4")]⟩]

theorem transform_again_sample :
    (∀ element ∈ sampleElements, Element.Made (fun _ => False) element) ∧
      ∃ known, registry = .ok known ∧ known.transform sampleElements = .ok sampleNodes ∧
        known.transform (toElements sampleNodes) = .ok sampleNodes := by
  have made : ∀ element ∈ sampleElements, Element.Made (fun _ => False) element := by
    have inside : Element.Made (fun _ => False) (.new "text" [("content", .int 5)] []) :=
      .new _ _ _ [] nofun
    have written : Element.Made (fun _ => False) (.ofText "e4") := .text _ "e4"
    simp only [sampleElements, List.forall_mem_cons]
    exact ⟨.new _ _ _ _ (by simpa using inside), .new _ _ _ [] nofun,
      .new _ _ _ _ (by simpa using written), nofun⟩
  obtain ⟨known, registered, again⟩ := transform_again sampleElements made
  have first : known.transform sampleElements = .ok sampleNodes := by
    cases registry_standard.symm.trans registered
    rfl
  exact ⟨made, known, registered, first, again sampleNodes first⟩

end MessageElement

end MarkupTemplate
