import MarkupTemplate.Element.Equality
import MarkupTemplate.Element.Markup
import MarkupTemplate.Proofs.Template.Settings
import Mathlib.Data.List.Nodup

/-!
The attributes of canonical elements. A key is canonical when its dashed
spelling leads back to it and can stand in a tag, a value when it is a string
or a truth value. Reading the markup of such attributes gives them back, in
ascending order.
-/

namespace MarkupTemplate.Element

/-- A value that markup tells apart from every other one. -/
def IsWritten (value : Value) : Prop :=
  (∃ content, value = .string content) ∨ ∃ truth, value = .bool truth

structure CanonicalAttr (entry : String × Value) : Prop where
  spelled : camelCase (paramCase entry.1) = entry.1
  named : entry.1 ≠ childrenKey
  word : IsWord (Setting.keyMarks false) (paramCase entry.1).toList
  written : IsWritten entry.2
  affirmed : entry.2 = .bool true → ¬ ['n', 'o', '-'] <+: (paramCase entry.1).toList

/-- Attributes as a dictionary of canonical entries. -/
structure CanonicalAttrs (attrs : Dict Value) : Prop where
  distinct : Dict.Distinct attrs
  each : ∀ entry ∈ attrs, CanonicalAttr entry

def settingOf : Value → Setting
  | .bool true => .yes
  | .bool false => .no
  | value => .text value.display

def settings (attrs : Dict Value) : List (String × Setting) :=
  (Dict.ascending attrs).map fun entry => (paramCase entry.1, settingOf entry.2)

theorem attr_markup_print (entry : String × Value) (written : IsWritten entry.2) :
    attrMarkup entry = (settingOf entry.2).print (paramCase entry.1) := by
  obtain ⟨key, value⟩ := entry
  rcases written with ⟨content, rfl⟩ | ⟨truth, rfl⟩
  · rfl
  · cases truth <;> rfl

theorem setting_value (interpolate : String → Value) (value : Value) (written : IsWritten value) :
    (settingOf value).value interpolate = value := by
  rcases written with ⟨content, rfl⟩ | ⟨truth, rfl⟩
  · rfl
  · cases truth <;> rfl

theorem setting_legible (entry : String × Value) (canonical : CanonicalAttr entry) :
    Setting.Legible false (paramCase entry.1, settingOf entry.2) := by
  obtain ⟨key, value⟩ := entry
  refine ⟨canonical.word, ?_⟩
  rcases canonical.written with ⟨content, rfl⟩ | ⟨truth, rfl⟩
  · trivial
  · cases truth with
    | true => exact canonical.affirmed rfl
    | false => trivial

theorem written_present (value : Value) (written : IsWritten value) : value.isNull = false := by
  rcases written with ⟨content, rfl⟩ | ⟨truth, rfl⟩ <;> rfl

theorem written_equals (value : Value) (written : IsWritten value) :
    Value.equals value value = true := by
  rcases written with ⟨content, rfl⟩ | ⟨truth, rfl⟩ <;> simp [Value.equals]

theorem entries_within (left right : Dict Value) (distinct : Dict.Distinct right)
    (within : ∀ entry ∈ left, entry ∈ right ∧ IsWritten entry.2) :
    Value.entriesWithin left right = true := by
  induction left with
  | nil => simp [Value.entriesWithin]
  | cons entry rest ih =>
      obtain ⟨key, value⟩ := entry
      obtain ⟨member, written⟩ := within (key, value) List.mem_cons_self
      have rests := ih fun other inside => within other (List.mem_cons_of_mem _ inside)
      have found := Dict.find_of_mem right key value distinct member
      simp [Value.entriesWithin, found, written_equals value written, rests]

theorem no_attr_children (attrs : Dict Value) (named : ∀ entry ∈ attrs, entry.1 ≠ childrenKey) :
    attrChildren attrs = [] := by
  have none : attrs.filter (fun entry => entry.1 == childrenKey) = [] := by
    rw [List.filter_eq_nil_iff]
    intro entry member
    simp [named entry member]
  rw [attrChildren, none]
  rfl

theorem new_named (kind : String) (attrs : Dict Value) (children : List Element)
    (other : kind ≠ textKind) (named : ∀ entry ∈ attrs, entry.1 ≠ childrenKey) :
    new kind attrs children = ⟨kind, keptAttrs attrs, children⟩ := by
  simp [new, if_neg other, no_attr_children attrs named]

theorem kept_named (attrs : Dict Value) (named : ∀ entry ∈ attrs, entry.1 ≠ childrenKey) :
    keptAttrs attrs = Dict.ofList ((attrs.filter fun entry => !entry.2.isNull).map
      fun entry => (camelCase entry.1, entry.2)) := by
  have same : (attrs.filter fun entry => !entry.2.isNull && entry.1 != childrenKey) =
      attrs.filter fun entry => !entry.2.isNull := by
    refine List.filter_congr fun entry member => ?_
    simp [named entry member]
  rw [keptAttrs, same]

theorem new_single (kind key : String) (value : Value) (children : List Element)
    (other : kind ≠ textKind) (named : key ≠ childrenKey) (present : value.isNull = false) :
    new kind [(key, value)] children = ⟨kind, [(camelCase key, value)], children⟩ := by
  have only : ∀ entry ∈ [(key, value)], entry.1 ≠ childrenKey := by simpa using named
  rw [new_named kind _ children other only, kept_named _ only]
  simp [present, Dict.ofList, Dict.insertAll, Dict.insert]

section

variable (attrs : Dict Value) (canonical : CanonicalAttrs attrs)

include canonical

theorem ascending_canonical : ∀ entry ∈ Dict.ascending attrs, CanonicalAttr entry := by
  intro entry member
  exact canonical.each entry ((Dict.ascending_perm attrs canonical.distinct).mem_iff.mp member)

theorem ascending_distinct : Dict.Distinct (Dict.ascending attrs) :=
  ((Dict.ascending_perm attrs canonical.distinct).map Prod.fst).nodup_iff.mpr canonical.distinct

theorem attrs_markup_print : attrsMarkup attrs = Setting.printAll (settings attrs) := by
  have each : ∀ entry ∈ Dict.ascending attrs,
      attrMarkup entry = (settingOf entry.2).print (paramCase entry.1) := fun entry member =>
    attr_markup_print entry (ascending_canonical attrs canonical entry member).written
  rw [attrsMarkup, Setting.printAll, settings, List.map_map, List.map_congr_left each]
  rfl

theorem settings_legible : ∀ entry ∈ settings attrs, Setting.Legible false entry := by
  intro entry member
  obtain ⟨source, inside, rfl⟩ := List.mem_map.mp member
  exact setting_legible source (ascending_canonical attrs canonical source inside)

-- Keys with the same dashed spelling are the same.
theorem settings_distinct : ((settings attrs).map Prod.fst).Nodup := by
  apply List.Nodup.of_map camelCase
  have back : ((settings attrs).map Prod.fst).map camelCase = Dict.keys (Dict.ascending attrs) := by
    rw [settings, List.map_map, List.map_map, Dict.keys]
    exact List.map_congr_left fun entry member =>
      (ascending_canonical attrs canonical entry member).spelled
  rw [back]
  exact ascending_distinct attrs canonical

theorem settings_values (interpolate : String → Value) :
    Setting.values interpolate (settings attrs) =
      (Dict.ascending attrs).map fun entry => (paramCase entry.1, entry.2) := by
  rw [Setting.values, settings, List.map_map]
  apply List.map_congr_left
  intro entry member
  have written := (ascending_canonical attrs canonical entry member).written
  simp only [Function.comp, setting_value interpolate entry.2 written]

-- No dashed spelling is the key of the children.
theorem dashed_not_children (entry : String × Value) (member : entry ∈ Dict.ascending attrs) :
    paramCase entry.1 ≠ childrenKey := by
  intro same
  have attr := ascending_canonical attrs canonical entry member
  have spelled := attr.spelled
  rw [same] at spelled
  exact attr.named (spelled.symm.trans (by decide))

-- Building an element from the settings gives the attributes in ascending order.
theorem new_settings (interpolate : String → Value) (kind : String) (children : List Element)
    (other : kind ≠ textKind) :
    new kind (Setting.values interpolate (settings attrs)) children =
      ⟨kind, Dict.ascending attrs, children⟩ := by
  -- No entry is dropped, none gives children, and every key gets its own spelling back.
  let dashed := (Dict.ascending attrs).map fun entry => (paramCase entry.1, entry.2)
  have named : ∀ entry ∈ dashed, entry.1 ≠ childrenKey := by
    intro entry member
    obtain ⟨source, inside, rfl⟩ := List.mem_map.mp member
    exact dashed_not_children attrs canonical source inside
  have all : (dashed.filter fun entry => !entry.2.isNull) = dashed := by
    rw [List.filter_eq_self]
    intro entry member
    obtain ⟨source, inside, rfl⟩ := List.mem_map.mp member
    have present := written_present _ (ascending_canonical attrs canonical source inside).written
    simp [present]
  have back : (dashed.map fun entry => (camelCase entry.1, entry.2)) = Dict.ascending attrs := by
    rw [List.map_map]
    refine (List.map_congr_left fun entry member => ?_).trans (List.map_id _)
    have spelled := (ascending_canonical attrs canonical entry member).spelled
    simp only [Function.comp, spelled, id]
  rw [settings_values attrs canonical, new_named kind dashed children other named,
    kept_named dashed named, all, back,
    Dict.ofList_distinct _ (ascending_distinct attrs canonical)]

theorem ascending_equals : Value.equals (.map (Dict.ascending attrs)) (.map attrs) = true := by
  have perm := Dict.ascending_perm attrs canonical.distinct
  have within := entries_within (Dict.ascending attrs) attrs canonical.distinct
    fun entry member =>
      ⟨perm.mem_iff.mp member, (ascending_canonical attrs canonical entry member).written⟩
  simp [Value.equals, perm.length_eq, within]

end

end MarkupTemplate.Element
