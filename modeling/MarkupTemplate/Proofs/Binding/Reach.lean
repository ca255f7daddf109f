import MarkupTemplate.Proofs.Binding.Keys
import MarkupTemplate.Proofs.Element.Attributes
import MarkupTemplate.Proofs.Text.Camel

/-!
The keys of a plan, as elements give them. An element keeps what it is given under the camel case of
its key, while a plan keeps explicit keys as they are declared and adds the camel case of the name
only. Main statement: what an element is given under a key of a field is found for the field exactly
where the camel case of the key is one of its keys too. So it is for a key in camel case and for the
name.
-/

namespace MarkupTemplate

theorem first_present_single {α : Type} (key : String) (value : α) (keys : List String) :
    firstPresent [(key, value)] keys = if key ∈ keys then some value else none := by
  induction keys with
  | nil => rfl
  | cons first rest ih =>
      rw [firstPresent, Dict.find, Dict.find, ih]
      by_cases same : key = first
      · simp [same]
      · simp [same]

theorem mem_spec_keys (spec : FieldSpec) (key : String) :
    key ∈ spec.keys ↔
      key ∈ spec.primary.toList ++ spec.secondary.toList ++
        [spec.name, uncapitalize spec.name, camelCase spec.name] ∧ key ≠ "" := by
  rw [FieldSpec.keys, foldl_add_key, List.mem_eraseDups, List.mem_filter, decide_eq_true_iff]

-- No name but the empty one has the empty spelling.
theorem camel_name_key (spec : FieldSpec) (named : spec.name ∈ spec.keys) :
    camelCase spec.name ∈ spec.keys := by
  have filled := ((mem_spec_keys spec spec.name).mp named).2
  refine (mem_spec_keys spec _).mpr ⟨by simp, ?_⟩
  intro empty
  exact filled (camel_small spec.name "" (by simp) empty)

/-- A key that markup can spell: it is in camel case, or it is the name of the field, also with a
small first letter where the name is in camel case. -/
def FieldPlan.Spells (field : FieldPlan) (key : String) : Prop :=
  camelCase key = key ∨ key = field.name ∨
    camelCase field.name = field.name ∧ key = uncapitalize field.name

theorem spelled_camel (spec : FieldSpec) (key : String) (candidate : key ∈ spec.keys)
    (spells : spec.plan.Spells key) : camelCase key ∈ spec.keys := by
  rcases spells with camel | same | ⟨camel, rfl⟩
  · rwa [camel]
  · rw [same] at candidate ⊢
    exact camel_name_key spec candidate
  · have small : camelCase (uncapitalize spec.name) = uncapitalize spec.name :=
      camel_uncapitalized spec.name camel
    exact small.symm ▸ candidate

/-- What an element is given under a key of a field is found for the field where the camel case of
the key is a key of the field too, and only there. It is one for every key that markup can spell. -/
theorem found_iff_camel_key (shape : String) (specs : List FieldSpec) (index : Nat)
    (field : FieldPlan) (kind key : String) (value : Value)
    (placed : (BindingPlan.build shape specs).fields[index]? = some field)
    (candidate : key ∈ field.keys) (named : key ≠ Element.childrenKey) (present : value ≠ .null)
    (tag : kind ≠ Element.textKind) :
    firstPresent (Element.new kind [(key, value)] []).attrs field.keys =
        (if camelCase key ∈ field.keys then some value else none) ∧
      (field.Spells key → camelCase key ∈ field.keys) := by
  have filled : value.isNull = false := by
    cases value with
    | null => exact absurd rfl present
    | bool | int | float | string | list | map | record => rfl
  constructor
  · rw [Element.new_single kind key value [] tag named filled]
    exact first_present_single (camelCase key) value field.keys
  · intro spells
    rw [BindingPlan.build, List.getElem?_map] at placed
    rcases Option.map_eq_some_iff.mp placed with ⟨spec, _, rfl⟩
    exact spelled_camel spec key candidate spells

/-- Fields with an explicit key in camel case, with one in another spelling, and with a name in
another spelling. -/
def sampleSpecs : List FieldSpec :=
  [⟨"parent", none, some "parentId", true, "i64"⟩, ⟨"id", some "data-id", none, true, "i64"⟩,
    ⟨"User_name", none, none, false, "String"⟩]

theorem found_iff_camel_key_name :
    (BindingPlan.build "Sample" sampleSpecs).fields[2]? =
        some ⟨"User_name", ["User_name", "user_name", "UserName"], "String", true⟩ ∧
      "User_name" ∈ ["User_name", "user_name", "UserName"] ∧
      "User_name" ≠ Element.childrenKey ∧ Value.int 7 ≠ .null ∧ "x" ≠ Element.textKind ∧
      firstPresent (Element.new "x" [("User_name", .int 7)] []).attrs
        ["User_name", "user_name", "UserName"] = some (.int 7) := by
  have placed : (BindingPlan.build "Sample" sampleSpecs).fields[2]? =
      some ⟨"User_name", ["User_name", "user_name", "UserName"], "String", true⟩ := by decide
  have found := found_iff_camel_key "Sample" sampleSpecs 2 _ "x" "User_name" (.int 7) placed
    (by decide) (by decide) nofun (by decide)
  have camel := found.2 (.inr (.inl rfl))
  rw [if_pos camel] at found
  exact ⟨placed, by decide, by decide, nofun, by decide, found.1⟩

/-- An explicit key with a dash is lost: the element has its camel case, and the plan does not. -/
theorem dashed_key_lost :
    (BindingPlan.build "Sample" sampleSpecs).fields[1]? =
        some ⟨"id", ["data-id", "id"], "i64", false⟩ ∧
      "data-id" ∈ ["data-id", "id"] ∧ "data-id" ≠ Element.childrenKey ∧ Value.int 7 ≠ .null ∧
      "x" ≠ Element.textKind ∧
      (Element.new "x" [("data-id", .int 7)] []).attrs = [("dataId", .int 7)] ∧
      firstPresent (Element.new "x" [("data-id", .int 7)] []).attrs ["data-id", "id"] = none :=
  ⟨by decide, by decide, by decide, nofun, by decide, rfl, rfl⟩

end MarkupTemplate
