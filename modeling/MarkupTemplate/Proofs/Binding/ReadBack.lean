import MarkupTemplate.Proofs.Binding.Conversion
import MarkupTemplate.Proofs.Binding.Rule

/-!
Records that are read and bound again. A record is read under the names of its fields, while binding
looks for explicit keys first; so a key that is the name of another field would fetch the value of
that field. Main statement: without such a key, binding what was read gives every field what its own
member converts back to, also where the record is nested or handed on as a handle.
-/

namespace MarkupTemplate

/-- Every bound field has a name of its own, and no explicit key of one field is the name of
another. -/
structure RecordType.Unambiguous (type : RecordType) : Prop where
  named : ∀ field ∈ type.bound, field.settings.name ≠ ""
  distinct : (type.bound.map (·.settings.name)).Nodup
  apart : ∀ field ∈ type.bound, ∀ key ∈ field.settings.aliases,
    key ∈ type.bound.map (·.settings.name) → key = field.settings.name

/-- What the members of a record come back as, each on its own: a skipped one as the default of its
type, and a bound one as what it converts to after it was shown. -/
inductive ComesBack (schema : Schema) : List RecordField → List Datum → List Datum → Prop where
  | done : ComesBack schema [] [] []
  | skipped (field : RecordField) (fields : List RecordField) (member : Datum)
      (members backs : List Datum) : field.settings.skipped = true →
      ComesBack schema fields members backs →
      ComesBack schema (field :: fields) (member :: members) (schema.default field.type :: backs)
  | bound (field : RecordField) (fields : List RecordField) (member back : Datum)
      (members backs : List Datum) : field.settings.skipped = false →
      convert schema (member.toValue schema) field.type = .ok back →
      ComesBack schema fields members backs →
      ComesBack schema (field :: fields) (member :: members) (back :: backs)

/-- The bound fields, each with its member. -/
def readMembers (fields : List RecordField) (members : List Datum) : List (RecordField × Datum) :=
  (fields.zip members).filter fun entry => !entry.1.settings.skipped

theorem read_members_skipped (field : RecordField) (fields : List RecordField) (member : Datum)
    (members : List Datum) (skipped : field.settings.skipped = true) :
    readMembers (field :: fields) (member :: members) = readMembers fields members :=
  List.filter_cons_of_neg (by simp [skipped])

theorem read_members_bound (field : RecordField) (fields : List RecordField) (member : Datum)
    (members : List Datum) (bound : field.settings.skipped = false) :
    readMembers (field :: fields) (member :: members) =
      (field, member) :: readMembers fields members :=
  List.filter_cons_of_pos (by simp [bound])

theorem find_some_settled {α : Type} (lookUp : String → Option α) (value : α)
    (before after : List String) (key : String)
    (settled : ∀ other ∈ before, lookUp other = none ∨ lookUp other = some value)
    (found : lookUp key = some value) :
    (before ++ key :: after).findSome? lookUp = some value := by
  induction before with
  | nil => rw [List.nil_append, List.findSome?_cons, found]
  | cons other rest ih =>
      have later := ih fun next inside => settled next (List.mem_cons_of_mem other inside)
      rw [List.cons_append, List.findSome?_cons]
      rcases settled other List.mem_cons_self with absent | same
      · rw [absent]
        exact later
      · rw [same]

section

variable (schema : Schema)

theorem to_map_entries (type : RecordType) (members : List Datum) :
    type.toMap (itemsToValue schema members) =
      Dict.ofList ((readMembers type.fields members).map fun entry =>
        (entry.1.settings.name, entry.2.toValue schema)) := by
  rw [RecordType.toMap, RecordType.settings, items_to_value_map, List.zip_map, List.filter_map,
    List.map_map]
  rfl

theorem read_members_fields (fields : List RecordField) (members backs : List Datum)
    (back : ComesBack schema fields members backs) :
    (readMembers fields members).map Prod.fst = RecordType.unskipped fields := by
  induction back with
  | done => rfl
  | skipped field fields member members backs skipped _ ih =>
      rw [RecordType.unskipped_skipped field fields skipped, ← ih,
        read_members_skipped field fields member members skipped]
  | bound field fields member back members backs bound _ _ ih =>
      rw [RecordType.unskipped_bound field fields (by simp [bound]), ← ih,
        read_members_bound field fields member members bound, List.map_cons]

/-- A map holds what a record shows: each bound member under the name of its field, and nothing
else. -/
structure Shows (type : RecordType) (members : List Datum) (attrs : Dict Value) : Prop where
  found : ∀ entry ∈ readMembers type.fields members,
    Dict.find entry.1.settings.name attrs = some (entry.2.toValue schema)
  names : Dict.keys attrs = type.bound.map (·.settings.name)

theorem to_map_shows (type : RecordType) (plain : type.Unambiguous) (members backs : List Datum)
    (back : ComesBack schema type.fields members backs) :
    Shows schema type members (type.toMap (itemsToValue schema members)) := by
  have names : Dict.keys ((readMembers type.fields members).map fun entry =>
      (entry.1.settings.name, entry.2.toValue schema)) =
      type.bound.map (·.settings.name) := by
    have fields := read_members_fields schema type.fields members backs back
    rw [RecordType.bound, ← RecordType.unskipped, ← fields, Dict.keys, List.map_map, List.map_map]
    rfl
  have distinct : Dict.Distinct ((readMembers type.fields members).map fun entry =>
      (entry.1.settings.name, entry.2.toValue schema)) := by
    rw [Dict.Distinct, names]
    exact plain.distinct
  rw [to_map_entries, Dict.ofList_distinct _ distinct]
  exact ⟨fun entry inside => Dict.find_of_mem _ _ _ distinct (List.mem_map_of_mem inside), names⟩

-- An explicit key is the name of the field itself or of none, so it leads to no other member.
theorem given_shown (type : RecordType) (plain : type.Unambiguous) (members : List Datum)
    (attrs : Dict Value) (shows : Shows schema type members attrs) (entry : RecordField × Datum)
    (inside : entry ∈ readMembers type.fields members) :
    entry.1.given attrs = some (entry.2.toValue schema) := by
  have bound : entry.1 ∈ type.bound := by
    obtain ⟨placed, unskipped⟩ := List.mem_filter.mp inside
    exact List.mem_filter.mpr ⟨(List.of_mem_zip placed).1, unskipped⟩
  have found := shows.found entry inside
  have settled : ∀ key ∈ entry.1.settings.aliases,
      Dict.find key attrs = none ∨ Dict.find key attrs = some (entry.2.toValue schema) := by
    intro key explicit
    by_cases known : key ∈ Dict.keys attrs
    · have own := plain.apart entry.1 bound key explicit (shows.names ▸ known)
      exact Or.inr (own ▸ found)
    · exact Or.inl ((Dict.find_none_iff attrs key).mpr known)
  rw [RecordField.given, Settings.candidates, List.filter_append,
    List.filter_cons_of_pos (by simpa using plain.named entry.1 bound)]
  refine find_some_settled _ _ _ _ _ ?_ found
  intro key member
  refine settled key ?_
  have explicit := (List.mem_filter.mp member).1
  rw [Settings.aliases]
  exact List.mem_append.mpr (List.mem_append.mp explicit).symm

theorem received_backs (attrs : Dict Value) (fields : List RecordField)
    (members backs : List Datum) (back : ComesBack schema fields members backs)
    (given : ∀ entry ∈ readMembers fields members,
      entry.1.given attrs = some (entry.2.toValue schema)) :
    List.Forall₂ (fun field datum => field.received schema attrs = .ok datum) fields backs := by
  induction back with
  | done => exact .nil
  | skipped field fields member members backs skipped _ ih =>
      rw [read_members_skipped field fields member members skipped] at given
      exact .cons (if_pos skipped) (ih given)
  | bound field fields member back members backs bound converted _ ih =>
      rw [read_members_bound field fields member members bound] at given
      have here := received_of_receives schema attrs field _
        (.converted _ back bound (given (field, member) List.mem_cons_self) converted)
      exact .cons here (ih fun entry inside => given entry (List.mem_cons_of_mem _ inside))

/-- Binding what was read of a record gives what its members come back as: the same record, where
each comes back as itself. The same holds for a handle of the record and for the map that it is
shown as, wherever they are converted to its type. -/
theorem read_record_binds_back (type : RecordType) (plain : type.Unambiguous)
    (members backs : List Datum) (back : ComesBack schema type.fields members backs) :
    type.bind schema (type.toMap (itemsToValue schema members)) = .ok backs ∧
      (schema.find type.shape = some type →
        convert schema (type.handle (itemsToValue schema members)) (.record type.shape) =
            .ok (.record type.shape backs) ∧
          convert schema ((Datum.record type.shape members).toValue schema)
              (.record type.shape) = .ok (.record type.shape backs)) := by
  have shows := to_map_shows schema type plain members backs back
  have bound : type.bind schema (type.toMap (itemsToValue schema members)) = .ok backs :=
    type.bind_of_received schema _ backs (received_backs schema _ type.fields members backs back
      (given_shown schema type plain members _ shows))
  refine ⟨bound, fun known => ⟨?_, ?_⟩⟩
  · rw [convert_nested schema (.record type.shape) type.shape type _ _ rfl known rfl, bound]
    rfl
  · have shown : (Datum.record type.shape members).toValue schema =
        .map (type.toMap (itemsToValue schema members)) := by
      rw [Datum.toValue, known]
      rfl
    rw [shown, convert_nested schema (.record type.shape) type.shape type _ _ rfl known rfl, bound]
    rfl

end

/-- A skipped number, then two fields that share an explicit key. That key is not the name of a
field, while the camel case of the first name is the second name. -/
def sampleSegment : RecordType :=
  ⟨"Segment", "Segment", [.hidden "serial" "serial" (.int .u8),
    ((RecordField.named "column_at" (.int .i32)).withPrimary "x").withSecondary "column_at",
    ((RecordField.item "2" "columnAt" (.option (.record "Point"))).withPrimary "x").optional], []⟩

def sampleSchema : Schema := ⟨"", [samplePoint, sampleSegment]⟩

def sampleMembers : List Datum :=
  [.atom (.int 0), .atom (.int (-7)),
    .present (.record "Point" [.atom (.int 0), .atom (.int 12), .atom (.string "x")])]

theorem sample_unambiguous : sampleSegment.Unambiguous where
  named := by decide
  distinct := by decide
  apart := by decide

theorem sample_comes_back :
    ComesBack sampleSchema sampleSegment.fields sampleMembers sampleMembers :=
  .skipped _ _ _ _ _ rfl (.bound _ _ _ _ _ _ rfl rfl (.bound _ _ _ _ _ _ rfl rfl .done))

theorem read_record_binds_back_segment :
    sampleSegment.Unambiguous ∧
      ComesBack sampleSchema sampleSegment.fields sampleMembers sampleMembers ∧
      sampleSchema.find "Segment" = some sampleSegment ∧
      sampleSegment.bind sampleSchema
          (sampleSegment.toMap (itemsToValue sampleSchema sampleMembers)) = .ok sampleMembers ∧
      convert sampleSchema (sampleSegment.handle (itemsToValue sampleSchema sampleMembers))
          (.record "Segment") = .ok (.record "Segment" sampleMembers) ∧
      convert sampleSchema ((Datum.record "Segment" sampleMembers).toValue sampleSchema)
          (.record "Segment") = .ok (.record "Segment" sampleMembers) := by
  have ⟨bound, inside⟩ := read_record_binds_back sampleSchema sampleSegment sample_unambiguous
    sampleMembers sampleMembers sample_comes_back
  exact ⟨sample_unambiguous, sample_comes_back, rfl, bound, inside rfl⟩

end MarkupTemplate
