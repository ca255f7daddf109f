import MarkupTemplate.Value.Basic

/-!
What a value is made of: the items of a list, the entries of a map and the fields of a record, at
every depth. Two ways to speak of all these parts: a fact about values that passes from the parts to
the whole holds of every value, and a property holds throughout a value where it holds of the value
and throughout its items, entries or fields.
-/

namespace MarkupTemplate.Value

/-- Neither a float nor made of other values. -/
def Atomic : Value → Prop
  | .null | .bool _ | .int _ | .string _ => True
  | .float _ | .list _ | .map _ | .record _ _ _ => False

theorem forall_parts {motive : Value → Prop}
    (atomic : ∀ value, value.Atomic → motive value)
    (float : ∀ number, motive (.float number))
    (list : ∀ items, (∀ item ∈ items, motive item) → motive (.list items))
    (map : ∀ entries : Dict Value, (∀ entry ∈ entries, motive entry.2) → motive (.map entries))
    (record : ∀ (shape : String) (fields answers : Dict Value),
      (∀ entry ∈ fields, motive entry.2) → motive (.record shape fields answers))
    (value : Value) : motive value := by
  refine @Value.rec motive (fun items => ∀ item ∈ items, motive item)
    (fun entries => ∀ entry ∈ entries, motive entry.2) (fun entry => motive entry.2)
    (atomic .null trivial) (fun truth => atomic (.bool truth) trivial)
    (fun number => atomic (.int number) trivial) float (fun text => atomic (.string text) trivial)
    list map (fun shape fields answers inside _ => record shape fields answers inside)
    ?noItem ?items ?noEntry ?entries ?entry value
  case noItem => exact nofun
  case items => exact fun item rest here later => List.forall_mem_cons.mpr ⟨here, later⟩
  case noEntry => exact nofun
  case entries => exact fun entry rest here later => List.forall_mem_cons.mpr ⟨here, later⟩
  case entry => exact fun _ _ here => here

/-- The value itself counts as one of its parts. What a record answers under other names are its
fields again. -/
inductive Contains : Value → Value → Prop where
  | self (value : Value) : Contains value value
  | item (items : List Value) (item part : Value) : item ∈ items → Contains item part →
      Contains (.list items) part
  | entry (entries : Dict Value) (entry : String × Value) (part : Value) : entry ∈ entries →
      Contains entry.2 part → Contains (.map entries) part
  | field (shape : String) (fields answers : Dict Value) (entry : String × Value) (part : Value) :
      entry ∈ fields → Contains entry.2 part → Contains (.record shape fields answers) part

def Throughout (holds : Value → Prop) (value : Value) : Prop :=
  ∀ part, value.Contains part → holds part

section

variable (holds : Value → Prop)

theorem throughout_atomic_iff (value : Value) (atomic : value.Atomic) :
    value.Throughout holds ↔ holds value := by
  constructor
  · exact fun all => all value (.self value)
  · intro here part inside
    cases inside with
    | self => exact here
    | item | entry | field => exact atomic.elim

@[simp] theorem throughout_float_iff (number : Binary64) :
    (Value.float number).Throughout holds ↔ holds (.float number) := by
  constructor
  · exact fun all => all _ (.self _)
  · rintro here _ ⟨⟩
    exact here

@[simp] theorem throughout_list_iff (items : List Value) :
    (Value.list items).Throughout holds ↔
      holds (.list items) ∧ ∀ item ∈ items, item.Throughout holds := by
  constructor
  · intro all
    exact ⟨all _ (.self _), fun item member part inside =>
      all part (.item items item part member inside)⟩
  · rintro ⟨here, later⟩ part inside
    cases inside with
    | self => exact here
    | item _ item _ member inside => exact later item member part inside

@[simp] theorem throughout_map_iff (entries : Dict Value) :
    (Value.map entries).Throughout holds ↔
      holds (.map entries) ∧ ∀ entry ∈ entries, entry.2.Throughout holds := by
  constructor
  · intro all
    exact ⟨all _ (.self _), fun entry member part inside =>
      all part (.entry entries entry part member inside)⟩
  · rintro ⟨here, later⟩ part inside
    cases inside with
    | self => exact here
    | entry _ entry _ member inside => exact later entry member part inside

@[simp] theorem throughout_record_iff (shape : String) (fields answers : Dict Value) :
    (Value.record shape fields answers).Throughout holds ↔
      holds (.record shape fields answers) ∧ ∀ entry ∈ fields, entry.2.Throughout holds := by
  constructor
  · intro all
    exact ⟨all _ (.self _), fun entry member part inside =>
      all part (.field shape fields answers entry part member inside)⟩
  · rintro ⟨here, later⟩ part inside
    cases inside with
    | self => exact here
    | field _ _ _ entry _ member inside => exact later entry member part inside

end

/-- A map has no key twice, and a record has no two fields of one name. -/
def SingleKeys : Value → Prop
  | .map entries => Dict.Distinct entries
  | .record _ fields _ => Dict.Distinct fields
  | _ => True

/-- Every map and every record within a value has single keys, as dictionaries do. -/
def Keyed (value : Value) : Prop := value.Throughout SingleKeys

theorem keyed_atomic (value : Value) (atomic : value.Atomic) : value.Keyed := by
  apply (throughout_atomic_iff SingleKeys value atomic).mpr
  cases value <;> first | exact True.intro | exact atomic.elim

end MarkupTemplate.Value
