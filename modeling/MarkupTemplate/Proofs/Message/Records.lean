import MarkupTemplate.Message.Registry
import MarkupTemplate.Proofs.Binding.ReadBack
import MarkupTemplate.Proofs.Binding.Typing
import MarkupTemplate.Proofs.Element.Sent

/-!
The records of messages on their way through markup. A member is written under the name of its field
and arrives as text or as a truth value; one that is null does not arrive. Main statement: binding
what arrives gives the members again.
-/

namespace MarkupTemplate

/-- An atom is read back from what markup carries of it. -/
theorem Atom.of_spelled (type : AtomType) (atom : Atom) (has : type.Has atom) (exact : atom.Exact) :
    ofValue type atom.toValue.spelled = .ok atom := by
  cases atom with
  | bool truth => exact of_shown type (.bool truth) has exact
  | char c => exact of_text type (.char c) has
  | int number =>
      obtain ⟨shown, same⟩ := int_shown number exact
      have spelled : (Value.int (Int64.ofInt number)).spelled =
          .string (String.ofList (intText (Int64.ofInt number).toInt)) := rfl
      rw [shown, spelled, same]
      exact of_text type (.int number) has
  | string content => exact of_text type (.string content) has

namespace Message

/-- A name that markup can write as the key of any value. -/
def PlainName (name : String) : Prop :=
  camelCase (paramCase name) = name ∧ name ≠ Element.childrenKey ∧
    IsWord (Setting.keyMarks false) (paramCase name).toList ∧
    ¬ ['n', 'o', '-'] <+: (paramCase name).toList

instance (name : String) : Decidable (PlainName name) :=
  inferInstanceAs (Decidable (_ ∧ _ ∧ _ ∧ _))

/-- All fields of the record are bound, each by its name alone. -/
structure Plain (type : RecordType) : Prop where
  distinct : (type.fields.map (·.settings.name)).Nodup
  each : ∀ field ∈ type.fields, PlainName field.settings.name ∧ field.settings.skipped = false ∧
    field.settings.candidates.eraseDups = [field.settings.name]

/-- A member that is null is the default of its field. Any other one converts back from what carries
its value. -/
def Comes (carry : Value → Value) (field : RecordField) (member : Datum) : Prop :=
  if (member.toValue schema).isNull then
    field.settings.optional = true ∧ schema.default field.type = member
  else convert schema (carry (member.toValue schema)) field.type = .ok member

/-- A way to carry values on which an atom is read back from the value that it is shown as. -/
structure Carries (carry : Value → Value) : Prop where
  null : ∀ value, (carry value).isNull = value.isNull
  atom : ∀ (type : AtomType) (atom : Atom), type.Has atom → atom.Exact →
    Atom.ofValue type (carry atom.toValue) = .ok atom

theorem spelled_carries : Carries Value.spelled := ⟨Value.spelled_null, Atom.of_spelled⟩

theorem kept_carries : Carries id := ⟨fun _ => rfl, Atom.of_shown⟩

section

variable {carry : Value → Value} (carries : Carries carry)

include carries

theorem Carries.atom_comes (field : RecordField) (type : AtomType) (atom : Atom)
    (typed : field.type = .atom type) (has : type.Has atom) (exact : atom.Exact) :
    Comes carry field (.atom atom) := by
  have shown : (Datum.atom atom).toValue schema = atom.toValue := rfl
  rw [Comes, shown, atom.shown_not_null exact, if_neg Bool.false_ne_true, typed, convert_atom,
    carries.atom type atom has exact]
  rfl

theorem Carries.option_comes {α : Type} (name : String) (type : AtomType) (encode : α → Atom)
    (item : Option α) (has : ∀ content, type.Has (encode content) ∧ (encode content).Exact) :
    Comes carry (optionalOf name (.atom type))
      (.ofOption (fun content => .atom (encode content)) item) := by
  cases item with
  | none => exact ⟨rfl, rfl⟩
  | some content =>
      obtain ⟨typed, exact⟩ := has content
      have back := carries.atom type (encode content) typed exact
      have shown : (Datum.present (.atom (encode content))).toValue schema =
          (encode content).toValue := rfl
      have present := (encode content).shown_not_null exact
      have still := (carries.null (encode content).toValue).trans present
      have optional : (optionalOf name (.atom type)).type = .option (.atom type) := rfl
      rw [Datum.ofOption, Comes, shown, present, if_neg Bool.false_ne_true, optional,
        convert_option, still, if_neg Bool.false_ne_true, convert_atom, back]
      rfl

end

section

variable (type : RecordType) (plain : Plain type) (data : List Datum)

/-- The names of the fields, each with what its member is shown as. -/
def shownEntries : Dict Value :=
  (type.fields.zip data).map fun entry => (entry.1.settings.name, entry.2.toValue schema)

theorem mem_shown (entry : String × Value) (member : entry ∈ shownEntries type data) :
    ∃ field ∈ type.fields, entry.1 = field.settings.name := by
  obtain ⟨source, inside, rfl⟩ := List.mem_map.mp member
  exact ⟨source.1, (List.of_mem_zip inside).1, rfl⟩

include plain

theorem shown_distinct : Dict.Distinct (shownEntries type data) := by
  have names : Dict.keys (shownEntries type data) =
      ((type.fields.zip data).map Prod.fst).map (·.settings.name) := by
    rw [Dict.keys, shownEntries, List.map_map, List.map_map]
    rfl
  have within : ((type.fields.zip data).map Prod.fst).Sublist type.fields := by
    rw [List.zip_eq_zip_take_min, List.map_fst_zip (by simp)]
    exact List.take_sublist _ _
  rw [Dict.Distinct, names]
  exact plain.distinct.sublist (within.map _)

theorem attrs_shown : attrsOf type data = shownEntries type data := by
  have all : readMembers type.fields data = type.fields.zip data := by
    rw [readMembers, List.filter_eq_self]
    intro entry member
    simp [(plain.each entry.1 (List.of_mem_zip member).1).2.1]
  rw [attrsOf, to_map_entries, all]
  exact Dict.ofList_distinct _ (shown_distinct type plain data)

theorem shown_plain : Element.PlainKeys (shownEntries type data) where
  distinct := shown_distinct type plain data
  camel := by
    intro entry member
    obtain ⟨field, inside, same⟩ := mem_shown type data entry member
    have spelled := (plain.each field inside).1.1
    rw [same, ← spelled, camel_camel]
  named := by
    intro entry member
    obtain ⟨field, inside, same⟩ := mem_shown type data entry member
    exact same ▸ (plain.each field inside).1.2.1

theorem shown_canonical :
    Element.CanonicalAttrs (Element.sentAttrs (shownEntries type data)) where
  distinct := Element.sent_distinct _ (shown_plain type plain data)
  each := by
    intro entry member
    obtain ⟨source, inside, same, written⟩ :=
      Element.mem_sent _ (shown_plain type plain data) entry member
    obtain ⟨field, placed, named⟩ := mem_shown type data source inside
    obtain ⟨spelled, other, word, affirmed⟩ := (plain.each field placed).1
    rw [named] at same
    exact ⟨same ▸ spelled, same ▸ other, same ▸ word, written, fun _ => same ▸ affirmed⟩

theorem given_name (attrs : Dict Value) (field : RecordField) (inside : field ∈ type.fields) :
    field.given attrs = Dict.find field.settings.name attrs := by
  have only := (plain.each field inside).2.2
  rw [RecordField.given, ← find_some_erase_dups, only]
  cases found : Dict.find field.settings.name attrs <;> simp [found]

/-- As the attributes hold for every member that is not null what carries its value, the field
receives a member that comes back from there. -/
theorem received_carried (carry : Value → Value) (attrs : Dict Value)
    (carried : ∀ name, Dict.find name attrs =
      ((Dict.find name (shownEntries type data)).filter fun value => !value.isNull).map carry)
    (field : RecordField) (member : Datum) (inside : (field, member) ∈ type.fields.zip data)
    (comes : Comes carry field member) : field.received schema attrs = .ok member := by
  have placed := (List.of_mem_zip inside).1
  have bound := (plain.each field placed).2.1
  have shown := Dict.find_of_mem (shownEntries type data) _ _ (shown_distinct type plain data)
    (List.mem_map_of_mem inside)
  have arrives := carried field.settings.name
  rw [shown, ← given_name type plain _ field placed] at arrives
  apply received_of_receives
  rw [Comes] at comes
  split at comes
  · rename_i null
    have absent : field.given attrs = none := by simp [arrives, null]
    have receives : Receives schema attrs field (.ok (schema.default field.type)) :=
      .absent bound absent comes.1
    rwa [comes.2] at receives
  · rename_i present
    exact .converted _ member bound (arrives.trans (by simp [present])) comes

/-- Binding what carries the members of a record gives these members. -/
theorem bind_carried (carry : Value → Value) (attrs : Dict Value)
    (carried : ∀ name, Dict.find name attrs =
      ((Dict.find name (shownEntries type data)).filter fun value => !value.isNull).map carry)
    (comes : List.Forall₂ (Comes carry) type.fields data) : type.bind schema attrs = .ok data := by
  apply RecordType.bind_of_received
  rw [List.forall₂_iff_zip] at comes ⊢
  exact ⟨comes.1, fun inside =>
    received_carried type plain data carry attrs carried _ _ inside (comes.2 inside)⟩

/-- Binding what arrives of a record gives its members. -/
theorem bind_sent (comes : List.Forall₂ (Comes Value.spelled) type.fields data) :
    type.bind schema (Dict.ascending (Element.sentAttrs (shownEntries type data))) = .ok data :=
  bind_carried type plain data Value.spelled _
    (Element.find_sent _ (shown_plain type plain data)) comes

end

end Message

end MarkupTemplate
