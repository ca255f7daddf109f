import MarkupTemplate.Proofs.Message.Records

/-!
The kinds of message elements and their constructors. The registry holds one constructor for every
tag, so a kind with its own tag is built by its own constructor, and any other tag becomes an
extension. Main statement: from what arrives of the attributes of a kind, the registry builds that
kind, with the attributes of an extension in ascending order.
-/

namespace MarkupTemplate.Message

/-- The constructors of the second names. -/
def alternativeConstructors : List (String × Constructor MessageElement) :=
  [("strong", unit (.styled .bold)), ("em", unit (.styled .italic)),
   ("ins", unit (.styled .underlined)), ("del", unit (.styled .struck)),
   ("image", bound resourceType fun data => .resource .image (.ofData data))]

/-- The registry of message elements, with all registrations carried out. -/
def standard : Registry MessageElement :=
  ⟨constructors ++ alternativeConstructors, some extension⟩

-- No tag is registered twice, and every second name stands for a registered one.
theorem registry_standard : registry = .ok standard := rfl

/-- The tags that have a constructor. -/
def reserved : List String := Dict.keys constructors ++ Dict.keys alternatives

theorem standard_keys : Dict.keys standard.constructors = reserved := rfl

theorem extension_not_text (tag : String) (free : tag ∉ reserved) : tag ≠ Element.textKind := by
  rintro rfl
  exact free (by decide)

/-- The kind with its attributes in the order in which they arrive. -/
def Kind.arranged : Kind → Kind
  | .extension tag attrs => .extension tag (Dict.ascending attrs)
  | kind => kind

def recordTypes : List RecordType :=
  [textType, atType, sharpType, linkType, resourceType, envelopeType, authorType]

theorem plain_records (type : RecordType) (known : type ∈ recordTypes) : Plain type := by
  have distinct : ∀ type ∈ recordTypes, (type.fields.map (·.settings.name)).Nodup := by decide
  have each : ∀ type ∈ recordTypes, ∀ field ∈ type.fields,
      PlainName field.settings.name ∧ field.settings.skipped = false ∧
        field.settings.candidates.eraseDups = [field.settings.name] := by decide
  exact ⟨distinct type known, each type known⟩

/-- A kind whose content is a record, and that its own constructor makes from the data of the
record. -/
structure Carried (kind : Kind) (type : RecordType) (data : List Datum)
    (make : List Datum → Kind) : Prop where
  known : type ∈ recordTypes
  attrs : kind.attrs = attrsOf type data
  comes : ∀ carry, Carries carry → List.Forall₂ (Comes carry) type.fields data
  registered : Dict.find kind.tag standard.constructors = some (bound type make)
  restored : make data = kind

section

variable {carry : Value → Value} (carries : Carries carry)

include carries

theorem Carries.text_comes (field : RecordField) (content : String) (typed : field.type = .string) :
    Comes carry field (.ofString content) :=
  carries.atom_comes field .string (.string content) typed trivial trivial

theorem Carries.text_comes? (name : String) (content : Option String) :
    Comes carry (optionalOf name .string) (text? content) :=
  carries.option_comes name .string .string content fun _ => ⟨trivial, trivial⟩

theorem Carries.flag_comes (name : String) (flag : Option Bool) :
    Comes carry (optionalOf name .bool) (.ofOption .ofBool flag) :=
  carries.option_comes name .bool .bool flag fun _ => ⟨trivial, trivial⟩

theorem Carries.word_comes (name : String) (number : Option UInt32) :
    Comes carry (optionalOf name (.int .u32)) (.ofOption .ofWord number) := by
  refine carries.option_comes name (.int .u32) (fun word => .int word.toNat) number ?_
  intro word
  have below : word.toNat < 4294967296 := word.toNat_lt
  have greatest : IntKind.u32.greatest = 4294967295 := rfl
  have least : IntKind.u32.least = 0 := rfl
  have fits : -2 ^ 63 ≤ (word.toNat : Int) ∧ (word.toNat : Int) < 2 ^ 63 := by omega
  exact ⟨⟨by omega, by omega⟩, decide_eq_true fits⟩

end

theorem to_of_option {α : Type} (encode : α → Datum) (decode : Datum → α)
    (back : ∀ content, decode (encode content) = content) (item : Option α) :
    (Datum.ofOption encode item).toOption decode = item := by
  cases item with
  | none => rfl
  | some content => exact congrArg some (back content)

theorem text_back (content : Option String) : (text? content).toOption Datum.toString = content :=
  to_of_option .ofString Datum.toString (fun _ => rfl) content

theorem flag_back (flag : Option Bool) :
    (Datum.ofOption .ofBool flag).toOption Datum.toBool = flag :=
  to_of_option .ofBool Datum.toBool (fun _ => rfl) flag

theorem word_back (number : Option UInt32) :
    (Datum.ofOption .ofWord number).toOption Datum.toWord = number :=
  to_of_option .ofWord Datum.toWord (fun word => by simp [Datum.ofWord, Datum.toWord]) number

theorem text_carried (content : String) :
    Carried (.text content) textType [.ofString content] fun data => .text (stringAt data 0) where
  known := by simp [recordTypes]
  attrs := rfl
  comes _ carries := .cons (carries.text_comes _ content rfl) .nil
  registered := rfl
  restored := rfl

theorem link_carried (href : String) :
    Carried (.link href) linkType [.ofString href] fun data => .link (stringAt data 0) where
  known := by simp [recordTypes]
  attrs := rfl
  comes _ carries := .cons (carries.text_comes _ href rfl) .nil
  registered := rfl
  restored := rfl

theorem at_carried (mention : At) :
    Carried (.at mention) atType mention.toData fun data => .at (.ofData data) where
  known := by simp [recordTypes]
  attrs := rfl
  comes _ carries := .cons (carries.text_comes? _ _) (.cons (carries.text_comes? _ _)
    (.cons (carries.text_comes? _ _) (.cons (carries.text_comes? _ _) .nil)))
  registered := rfl
  restored := by
    simp [At.ofData, At.toData, textAt?, optionAt, fieldAt, text_back]

theorem sharp_carried (channel : Sharp) :
    Carried (.sharp channel) sharpType channel.toData fun data => .sharp (.ofData data) where
  known := by simp [recordTypes]
  attrs := rfl
  comes _ carries := .cons (carries.text_comes _ _ rfl) (.cons (carries.text_comes? _ _) .nil)
  registered := rfl
  restored := by
    simp [Sharp.ofData, Sharp.toData, stringAt, textAt?, optionAt, fieldAt, text_back,
      Datum.ofString, Datum.toString]

theorem resource_carried (medium : Medium) (file : Resource) :
    Carried (.resource medium file) resourceType file.toData
      fun data => .resource medium (.ofData data) where
  known := by simp [recordTypes]
  attrs := rfl
  comes _ carries := .cons (carries.text_comes _ _ rfl) (.cons (carries.text_comes? _ _)
    (.cons (carries.flag_comes _ _) (.cons (carries.word_comes _ _)
      (.cons (carries.word_comes _ _) .nil))))
  registered := by cases medium <;> rfl
  restored := by
    simp [Resource.ofData, Resource.toData, stringAt, textAt?, optionAt, fieldAt, text_back,
      flag_back, word_back, Datum.ofString, Datum.toString]

theorem message_carried (envelope : Envelope) :
    Carried (.message envelope) envelopeType envelope.toData
      fun data => .message (.ofData data) where
  known := by simp [recordTypes]
  attrs := rfl
  comes _ carries := .cons (carries.text_comes? _ _) (.cons (carries.flag_comes _ _) .nil)
  registered := rfl
  restored := by
    simp [Envelope.ofData, Envelope.toData, textAt?, optionAt, fieldAt, text_back, flag_back]

theorem author_carried (writer : Author) :
    Carried (.author writer) authorType writer.toData fun data => .author (.ofData data) where
  known := by simp [recordTypes]
  attrs := rfl
  comes _ carries := .cons (carries.text_comes? _ _) (.cons (carries.text_comes? _ _)
    (.cons (carries.text_comes? _ _) .nil))
  registered := rfl
  restored := by
    simp [Author.ofData, Author.toData, textAt?, optionAt, fieldAt, text_back]

/-- What becomes of a kind on its way: its attributes can be written, and the registry builds the
kind from what arrives of them. -/
structure Arrives (kind : Kind) : Prop where
  plain : Element.PlainKeys kind.attrs
  canonical : Element.CanonicalAttrs (Element.sentAttrs kind.attrs)
  built : standard.construct kind.tag (Dict.ascending (Element.sentAttrs kind.attrs)) =
    .ok (leaf kind.arranged)

theorem carried_arrives (kind : Kind) (type : RecordType) (data : List Datum)
    (make : List Datum → Kind) (carried : Carried kind type data make)
    (same : kind.arranged = kind) : Arrives kind := by
  have plain := plain_records type carried.known
  have shown := carried.attrs.trans (attrs_shown type plain data)
  refine ⟨shown ▸ shown_plain type plain data, shown ▸ shown_canonical type plain data, ?_⟩
  rw [Registry.construct, carried.registered, shown]
  have built : bound type make
      (Dict.ascending (Element.sentAttrs (shownEntries type data))) = .ok (leaf (make data)) := by
    rw [bound, bind_sent type plain data (carried.comes _ spelled_carries)]
    rfl
  simp only [built, map_error_ok, carried.restored, same]

theorem no_attrs_arrives (kind : Kind) (none : kind.attrs = [])
    (registered : Dict.find kind.tag standard.constructors = some (unit kind))
    (same : kind.arranged = kind) : Arrives kind := by
  refine ⟨?_, ?_, ?_⟩
  · rw [none]
    exact ⟨List.nodup_nil, by simp, by simp⟩
  · rw [none]
    exact ⟨List.nodup_nil, by simp [Element.sentAttrs, Element.spelledAttrs, Element.keptAttrs,
      Dict.ofList, Dict.insertAll]⟩
  · rw [Registry.construct, registered, same]
    rfl

/-- Attributes that markup can write arrive as they are. -/
theorem written_sent (attrs : Dict Value) (canonical : Element.CanonicalAttrs attrs) :
    Element.PlainKeys attrs ∧ Element.sentAttrs attrs = attrs := by
  have plain : Element.PlainKeys attrs := by
    refine ⟨canonical.distinct, fun entry member => ?_, fun entry member => ?_⟩
    · rw [← (canonical.each entry member).spelled, camel_camel]
    · exact (canonical.each entry member).named
  have present : (attrs.filter fun entry => !entry.2.isNull) = attrs := by
    rw [List.filter_eq_self]
    intro entry member
    simp [Element.written_present _ (canonical.each entry member).written]
  have written : Element.spelledAttrs attrs = attrs := by
    refine (List.map_congr_left fun entry member => ?_).trans (List.map_id _)
    obtain ⟨key, value⟩ := entry
    rcases (canonical.each (key, value) member).written with ⟨content, rfl⟩ | ⟨truth, rfl⟩ <;> rfl
  exact ⟨plain, by rw [Element.sentAttrs, Element.kept_plain attrs plain, present, written]⟩

theorem extension_arrives (tag : String) (attrs : Dict Value) (free : tag ∉ reserved)
    (canonical : Element.CanonicalAttrs attrs) : Arrives (.extension tag attrs) := by
  obtain ⟨plain, sent⟩ := written_sent attrs canonical
  have absent : Dict.find tag standard.constructors = none :=
    (Dict.find_none_iff _ tag).mpr (standard_keys ▸ free)
  have shown : (Kind.extension tag attrs).attrs = attrs := rfl
  have named : (Kind.extension tag attrs).tag = tag := rfl
  refine ⟨plain, ?_, ?_⟩
  · rw [shown, sent]
    exact canonical
  · rw [shown, sent, named, Registry.construct, absent]
    rfl

end MarkupTemplate.Message
