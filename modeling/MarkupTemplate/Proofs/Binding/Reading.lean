import MarkupTemplate.Binding.Convert
import MarkupTemplate.Proofs.Binding.Keys

/-!
What a field receives from attributes. The constructor and the merge of a record
number the bound fields each in its own way, and both numbers lead to the keys of the field that
they belong to. So either reads a field by its own keys, without regard to the plan.
-/

namespace MarkupTemplate

/-- The value under the first candidate key that is present, be it null or zero. -/
def RecordField.given (attrs : Dict Value) (field : RecordField) : Option Value :=
  field.settings.candidates.findSome? fun key => Dict.find key attrs

/-- What attributes hold for a bound field: nothing, if it is optional and none of its keys is
there. -/
def RecordField.taken (schema : Schema) (attrs : Dict Value) (field : RecordField) :
    Except BindError (Option Datum) :=
  match field.given attrs with
  | some value =>
      match convert schema value field.type with
      | .ok datum => .ok (some datum)
      | .error error => .error (.field field.settings.name error)
  | none =>
      if field.settings.optional then .ok none
      else .error (.missing field.settings.name field.settings.candidates.eraseDups)

/-- What a new record gets for a field. -/
def RecordField.received (schema : Schema) (attrs : Dict Value) (field : RecordField) :
    Except BindError Datum :=
  if field.settings.skipped then .ok (schema.default field.type)
  else (field.taken schema attrs).map fun found => found.getD (schema.default field.type)

theorem find_entry_sources (schema : Schema) (attrs : Dict Value) (key : String) :
    Dict.find key (entrySources schema attrs) = (Dict.find key attrs).map (convert schema) := by
  induction attrs with
  | nil => rfl
  | cons entry rest ih =>
      obtain ⟨present, value⟩ := entry
      by_cases same : present = key
      · simp [entrySources, Dict.find, same]
      · simp [entrySources, Dict.find, same, ih]

theorem first_present_given (schema : Schema) (attrs : Dict Value) (field : RecordField) :
    firstPresent (entrySources schema attrs) field.settings.spec.keys =
      (field.given attrs).map (convert schema) := by
  have each : (fun key => Dict.find key (entrySources schema attrs)) =
      Option.map (convert schema) ∘ fun key => Dict.find key attrs :=
    funext fun key => find_entry_sources schema attrs key
  rw [first_present_spec, each, ← List.map_findSome?]
  rfl

theorem in_order_of_each {α β ε : Type} (read : α → Except ε β) (items : List α)
    (values : List β) (each : List.Forall₂ (fun item value => read item = .ok value) items values) :
    inOrder (items.map read) = .ok values := by
  induction each with
  | nil => rfl
  | cons here _ ih =>
      rw [List.map_cons, inOrder, here, ih]
      rfl

namespace RecordType

/-- From a place on, a plan holds what these fields declare, one after another. -/
def Places (plan : BindingPlan) (next : Nat) (bound : List RecordField) : Prop :=
  ∀ index field, bound[index]? = some field →
    plan.fields[next + index]? = some field.settings.spec.plan

theorem places_plan (type : RecordType) : Places type.plan 0 type.bound := by
  intro index field placed
  simp [plan, BindingPlan.build, placed]

theorem places_first (plan : BindingPlan) (next : Nat) (field : RecordField)
    (rest : List RecordField) (places : Places plan next (field :: rest)) :
    plan.fields[next]? = some field.settings.spec.plan := places 0 field rfl

theorem places_rest (plan : BindingPlan) (next : Nat) (field : RecordField)
    (rest : List RecordField) (places : Places plan next (field :: rest)) :
    Places plan (next + 1) rest := by
  intro index other placed
  rw [Nat.add_assoc, Nat.add_comm 1 index]
  exact places (index + 1) other placed

theorem optional_given (schema : Schema) (attrs : Dict Value) (plan : BindingPlan) (index : Nat)
    (field : RecordField) (placed : plan.fields[index]? = some field.settings.spec.plan) :
    plan.optional (entrySources schema attrs) index field.type =
      match field.given attrs with
      | some value =>
          match convert schema value field.type with
          | .ok datum => .ok (some datum)
          | .error error => .error (.field field.settings.name error)
      | none => .ok none := by
  simp only [BindingPlan.optional, placed, FieldSpec.plan, first_present_given]
  cases field.given attrs <;> rfl

theorem missing_placed (plan : BindingPlan) (index : Nat) (field : RecordField)
    (placed : plan.fields[index]? = some field.settings.spec.plan) :
    plan.missing index =
      .missing field.settings.name field.settings.candidates.eraseDups := by
  rw [BindingPlan.missing, placed, ← spec_keys]
  rfl

theorem read_field_taken (schema : Schema) (attrs : Dict Value) (plan : BindingPlan) (index : Nat)
    (field : RecordField) (placed : plan.fields[index]? = some field.settings.spec.plan) :
    readField plan (entrySources schema attrs) index field = field.taken schema attrs := by
  have found := optional_given schema attrs plan index field placed
  have missing := missing_placed plan index field placed
  rw [readField, BindingPlan.require, found, missing, RecordField.taken]
  cases field.given attrs with
  | none => cases field.settings.optional <;> rfl
  | some value =>
      dsimp only
      cases convert schema value field.type with
      | ok datum => cases field.settings.optional <;> rfl
      | error error => cases field.settings.optional <;> rfl

-- The constructor reads the field that a merge reads, and then puts the default where it is absent.
theorem construct_read (schema : Schema) (plan : BindingPlan) (sources : Dict Source) (index : Nat)
    (field : RecordField) :
    construct schema plan sources field
        (if field.settings.optional then .optional index else .require index) =
      (readField plan sources index field).map fun found =>
        found.getD (schema.default field.type) := by
  rw [readField]
  cases field.settings.optional with
  | true => rfl
  | false =>
      change plan.require sources index field.type = _
      cases plan.require sources index field.type <;> rfl

/-- The fields that take part in binding. -/
def unskipped (fields : List RecordField) : List RecordField :=
  fields.filter fun field => !field.settings.skipped

theorem unskipped_skipped (field : RecordField) (rest : List RecordField)
    (skipped : field.settings.skipped = true) :
    unskipped (field :: rest) = unskipped rest := List.filter_cons_of_neg (by simp [skipped])

theorem unskipped_bound (field : RecordField) (rest : List RecordField)
    (bound : ¬field.settings.skipped = true) :
    unskipped (field :: rest) = field :: unskipped rest :=
  List.filter_cons_of_pos (by simp [bound])

theorem construct_received (schema : Schema) (attrs : Dict Value) (plan : BindingPlan) (next : Nat)
    (fields : List RecordField) (places : Places plan next (unskipped fields)) :
    ((fields.zip (stepsFrom next (fields.map (·.settings)))).map fun (field, step) =>
        construct schema plan (entrySources schema attrs) field step) =
      fields.map (·.received schema attrs) := by
  induction fields generalizing next with
  | nil => rfl
  | cons field rest ih =>
      by_cases skipped : field.settings.skipped = true
      · rw [unskipped_skipped field rest skipped] at places
        have later := ih next places
        simp only [List.map_cons, stepsFrom, skipped, ↓reduceIte, List.zip_cons_cons, later]
        simp [construct, RecordField.received, skipped]
      · rw [unskipped_bound field rest skipped] at places
        have later := ih (next + 1) (places_rest plan next field _ places)
        have here := read_field_taken schema attrs plan next field
          (places_first plan next field _ places)
        simp only [List.map_cons, stepsFrom, skipped, Bool.false_eq_true, ↓reduceIte,
          List.zip_cons_cons, later, construct_read, here]
        simp [RecordField.received, skipped]

/-- A new record is made of what its fields receive. -/
theorem bind_received (schema : Schema) (type : RecordType) (attrs : Dict Value) :
    type.bind schema attrs = inOrder (type.fields.map (·.received schema attrs)) := by
  rw [bind, bindFrom, steps, settings,
    construct_received schema attrs type.plan 0 type.fields type.places_plan]

theorem bind_of_received (schema : Schema) (type : RecordType) (attrs : Dict Value)
    (data : List Datum)
    (each : List.Forall₂ (fun field datum => field.received schema attrs = .ok datum)
      type.fields data) : type.bind schema attrs = .ok data := by
  rw [bind_received]
  exact in_order_of_each (·.received schema attrs) type.fields data each

end RecordType

end MarkupTemplate
