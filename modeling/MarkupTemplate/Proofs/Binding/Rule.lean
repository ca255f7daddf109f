import MarkupTemplate.Binding.Shapes
import MarkupTemplate.Proofs.Binding.Options
import MarkupTemplate.Proofs.Binding.Reading

/-!
The rule by which a record is bound. The fields are walked in the order of their
declaration; each receives the value under the first of its own keys that is present, converted to
its type, and the first field that fails ends the walk. Main statement: binding gives what the
rule gives for the settings that the declaration leads to, also where a record is nested in
another one.
-/

namespace MarkupTemplate

/-- What a field receives from attributes, or the error that it fails with. -/
inductive Receives (schema : Schema) (attrs : Dict Value) (field : RecordField) :
    Except BindError Datum → Prop where
  | skipped : field.settings.skipped = true →
      Receives schema attrs field (.ok (schema.default field.type))
  | converted (value : Value) (datum : Datum) : field.settings.skipped = false →
      field.given attrs = some value → convert schema value field.type = .ok datum →
      Receives schema attrs field (.ok datum)
  | unfit (value : Value) (error : ConvertError) : field.settings.skipped = false →
      field.given attrs = some value → convert schema value field.type = .error error →
      Receives schema attrs field (.error (.field field.settings.name error))
  | absent : field.settings.skipped = false → field.given attrs = none →
      field.settings.optional = true →
      Receives schema attrs field (.ok (schema.default field.type))
  | missing : field.settings.skipped = false → field.given attrs = none →
      field.settings.optional = false →
      Receives schema attrs field
        (.error (.missing field.settings.name field.settings.candidates.eraseDups))

/-- What the fields of a record receive one after another, or the error of the first that fails. -/
inductive Binds (schema : Schema) (attrs : Dict Value) :
    List RecordField → Except BindError (List Datum) → Prop where
  | done : Binds schema attrs [] (.ok [])
  | next (field : RecordField) (rest : List RecordField) (datum : Datum) (members : List Datum) :
      Receives schema attrs field (.ok datum) → Binds schema attrs rest (.ok members) →
      Binds schema attrs (field :: rest) (.ok (datum :: members))
  | fails (field : RecordField) (rest : List RecordField) (error : BindError) :
      Receives schema attrs field (.error error) →
      Binds schema attrs (field :: rest) (.error error)
  | later (field : RecordField) (rest : List RecordField) (datum : Datum) (error : BindError) :
      Receives schema attrs field (.ok datum) → Binds schema attrs rest (.error error) →
      Binds schema attrs (field :: rest) (.error error)

theorem received_of_receives (schema : Schema) (attrs : Dict Value) (field : RecordField)
    (result : Except BindError Datum) (receives : Receives schema attrs field result) :
    field.received schema attrs = result := by
  cases receives with
  | skipped skipped => simp [RecordField.received, skipped]
  | converted value datum bound given read =>
      simp [RecordField.received, RecordField.taken, bound, given, read, Except.map]
  | unfit value error bound given read =>
      simp [RecordField.received, RecordField.taken, bound, given, read, Except.map]
  | absent bound given optional =>
      simp [RecordField.received, RecordField.taken, bound, given, optional, Except.map]
  | missing bound given required =>
      simp [RecordField.received, RecordField.taken, bound, given, required, Except.map]

theorem receives_received (schema : Schema) (attrs : Dict Value) (field : RecordField) :
    Receives schema attrs field (field.received schema attrs) := by
  cases skipped : field.settings.skipped with
  | true =>
      rw [RecordField.received, if_pos skipped]
      exact .skipped skipped
  | false =>
      rw [RecordField.received, if_neg (by simp [skipped]), RecordField.taken]
      cases given : field.given attrs with
      | some value =>
          cases read : convert schema value field.type with
          | ok datum =>
              simp only [read]
              exact .converted value datum skipped given read
          | error error =>
              simp only [read]
              exact .unfit value error skipped given read
      | none =>
          cases optional : field.settings.optional with
          | true => exact .absent skipped given optional
          | false => exact .missing skipped given optional

theorem in_order_of_binds (schema : Schema) (attrs : Dict Value) (fields : List RecordField)
    (result : Except BindError (List Datum)) (binds : Binds schema attrs fields result) :
    inOrder (fields.map (·.received schema attrs)) = result := by
  induction binds with
  | done => rfl
  | next field rest datum members receives _ ih =>
      have here := received_of_receives schema attrs field _ receives
      rw [List.map_cons, inOrder, here, ih]
      rfl
  | fails field rest error receives =>
      have here := received_of_receives schema attrs field _ receives
      rw [List.map_cons, inOrder, here]
      rfl
  | later field rest datum error receives _ ih =>
      have here := received_of_receives schema attrs field _ receives
      rw [List.map_cons, inOrder, here, ih]
      rfl

theorem binds_in_order (schema : Schema) (attrs : Dict Value) (fields : List RecordField) :
    Binds schema attrs fields (inOrder (fields.map (·.received schema attrs))) := by
  induction fields with
  | nil => exact .done
  | cons field rest ih =>
      have receives := receives_received schema attrs field
      rw [List.map_cons, inOrder]
      cases here : field.received schema attrs with
      | error error =>
          rw [here] at receives
          exact .fails field rest error receives
      | ok datum =>
          rw [here] at receives
          cases others : inOrder (rest.map (·.received schema attrs)) with
          | error error =>
              rw [others] at ih
              exact .later field rest datum error receives ih
          | ok members =>
              rw [others] at ih
              exact .next field rest datum members receives ih

theorem bind_iff (schema : Schema) (type : RecordType) (attrs : Dict Value)
    (result : Except BindError (List Datum)) :
    type.bind schema attrs = result ↔ Binds schema attrs type.fields result := by
  rw [RecordType.bind_received]
  constructor
  · rintro rfl
    exact binds_in_order schema attrs type.fields
  · exact in_order_of_binds schema attrs type.fields result

/-- What a nested record is bound from: a map, or the fields of another record. -/
def attributesOf : Value → Option (Dict Value)
  | .map entries => some entries
  | .record _ fields _ => some fields
  | _ => none

/-- The record type that a type is, or that it holds in options and boxes. -/
def Ty.shape? : Ty → Option String
  | .record shape => some shape
  | .option item => item.shape?
  | .boxed item => item.shape?
  | _ => none

/-- A record inside the options of a type. -/
def Ty.hold (shape : String) (members : List Datum) : Ty → Datum
  | .option item => .present (item.hold shape members)
  | .boxed item => item.hold shape members
  | _ => .record shape members

/-- A nested record that is bound, or why it is not. -/
def nested (type : Ty) (shape : String) : Except BindError (List Datum) → Except ConvertError Datum
  | .ok members => .ok (type.hold shape members)
  | .error error => .error (.record error)

theorem attributes_cases (value : Value) (attrs : Dict Value)
    (attributes : attributesOf value = some attrs) :
    value = .map attrs ∨ ∃ shape answers, value = .record shape attrs answers := by
  cases value with
  | map entries => exact Or.inl (congrArg Value.map (Option.some.inj attributes))
  | record shape fields answers =>
      cases attributes
      exact Or.inr ⟨shape, answers, rfl⟩
  | null | bool | int | float | string | list => cases attributes

theorem convert_attributes (schema : Schema) (value : Value) (attrs : Dict Value)
    (attributes : attributesOf value = some attrs) :
    convert schema value = Source.ofParts schema value [] (entrySources schema attrs) := by
  rcases attributes_cases value attrs attributes with rfl | ⟨shape, answers, rfl⟩ <;> rw [convert]

theorem record_parts (schema : Schema) (value : Value) (attrs : Dict Value) (sources : Dict Source)
    (attributes : attributesOf value = some attrs) (shape : String) :
    Source.ofParts schema value [] sources (.record shape) =
      Source.record schema shape sources := by
  rcases attributes_cases value attrs attributes with rfl | ⟨shape, answers, rfl⟩ <;> rfl

theorem attributes_not_null (value : Value) (attrs : Dict Value)
    (attributes : attributesOf value = some attrs) : value.isNull = false := by
  rcases attributes_cases value attrs attributes with rfl | ⟨shape, answers, rfl⟩ <;> rfl

theorem convert_nested (schema : Schema) (type : Ty) (shape : String) (inner : RecordType)
    (value : Value) (attrs : Dict Value) (named : type.shape? = some shape)
    (known : schema.find shape = some inner) (attributes : attributesOf value = some attrs) :
    convert schema value type = nested type shape (inner.bind schema attrs) := by
  rw [convert_attributes schema value attrs attributes]
  induction type with
  | record other =>
      cases named
      rw [record_parts schema value attrs _ attributes, Source.record, known, RecordType.bind]
      dsimp only
      cases inner.bindFrom schema (entrySources schema attrs) <;> rfl
  | option item ih =>
      rw [Source.ofParts, attributes_not_null value attrs attributes, ih named]
      cases inner.bind schema attrs <;> rfl
  | boxed item ih =>
      rw [Source.ofParts, ih named]
      cases inner.bind schema attrs <;> rfl
  | atom | float32 | float64 | value | list | map => cases named

theorem fields_declared (declaration : Declaration) (type : RecordType)
    (accepted : declaration.settings = .ok type.settings) :
    List.Forall₂ (fun declared field => Declares declared field.settings)
      declaration.fields type.fields := by
  have declares := declaration_declares declaration type.settings accepted
  rwa [RecordType.settings, List.forall₂_map_right_iff] at declares

/-- The fields of a declared record have the settings that their options ask for; binding gives
what the rule gives for these; and a nested record given as a map or as another record is bound by
the same rule. -/
theorem bind_follows_rule (schema : Schema) :
    (∀ (declaration : Declaration) (type : RecordType),
      declaration.settings = .ok type.settings →
      List.Forall₂ (fun declared field => Declares declared field.settings)
        declaration.fields type.fields) ∧
    (∀ (type : RecordType) (attrs : Dict Value) (result : Except BindError (List Datum)),
      type.bind schema attrs = result ↔ Binds schema attrs type.fields result) ∧
    ∀ (type : Ty) (shape : String) (inner : RecordType) (value : Value) (attrs : Dict Value)
      (result : Except BindError (List Datum)),
      type.shape? = some shape → schema.find shape = some inner →
      attributesOf value = some attrs → Binds schema attrs inner.fields result →
      convert schema value type = nested type shape result := by
  refine ⟨fields_declared, bind_iff schema, ?_⟩
  intro type shape inner value attrs result named known attributes binds
  rw [convert_nested schema type shape inner value attrs named known attributes,
    (bind_iff schema inner attrs result).mpr binds]

/-- A private number, a column under an explicit key, and a label that may be absent. -/
def pointDeclaration : Declaration :=
  ⟨.named, [⟨"serial", false, "u8", []⟩,
    ⟨"column_at", true, "i32", [⟨.own, [.assigned "name" (.text "x")]⟩]⟩,
    ⟨"label", true, "String", [⟨.foreign, [.bare "skip"]⟩, ⟨.own, [.bare "omitempty"]⟩]⟩]⟩

/-- The record type of that declaration. -/
def samplePoint : RecordType :=
  ⟨"Point", "Point", [.hidden "serial" "serial" (.int .u8),
    (RecordField.named "column_at" (.int .i32)).withPrimary "x",
    (RecordField.named "label" .string).optional], []⟩

/-- The explicit key is absent, so that the camel case of the name counts; a null label is there. -/
def sampleAttrs : Dict Value := [("columnAt", .string "-7"), ("label", .null), ("serial", .int 9)]

theorem bind_follows_rule_point :
    pointDeclaration.settings = .ok samplePoint.settings ∧
      List.Forall₂ (fun declared field => Declares declared field.settings)
        pointDeclaration.fields samplePoint.fields ∧
      (Ty.option (.boxed (.record "Point"))).shape? = some "Point" ∧
      Schema.find "Point" ⟨"", [samplePoint]⟩ = some samplePoint ∧
      attributesOf (.record "Spot" sampleAttrs []) = some sampleAttrs ∧
      Binds ⟨"", [samplePoint]⟩ sampleAttrs samplePoint.fields
        (.ok [.atom (.int 0), .atom (.int (-7)), .atom (.string "")]) ∧
      convert ⟨"", [samplePoint]⟩ (.record "Spot" sampleAttrs [])
          (.option (.boxed (.record "Point"))) =
        .ok (.present (.record "Point" [.atom (.int 0), .atom (.int (-7)), .atom (.string "")])) := by
  have ⟨declared, bound, inside⟩ := bind_follows_rule ⟨"", [samplePoint]⟩
  have accepted : pointDeclaration.settings = .ok samplePoint.settings := by rfl
  have binds := (bound samplePoint sampleAttrs
    (.ok [.atom (.int 0), .atom (.int (-7)), .atom (.string "")])).mp (by rfl)
  exact ⟨accepted, declared pointDeclaration samplePoint accepted, rfl, rfl, rfl, binds,
    inside _ "Point" samplePoint _ sampleAttrs _ rfl rfl rfl binds⟩

end MarkupTemplate
