import MarkupTemplate.Binding.Record
import MarkupTemplate.Outcome

/-!
Conversion of values to typed data. Null becomes the zero of the type, lists and
maps are converted item by item, and a record is bound from a map or from the
fields of another record. Of several errors the first one counts.
-/

namespace MarkupTemplate

namespace RecordType

/-- The datum of a field, by its step of the constructor. -/
def construct (schema : Schema) (plan : BindingPlan) (sources : Dict Source) (field : RecordField) :
    Step → Except BindError Datum
  | .require index => plan.require sources index field.type
  | .optional index =>
      (plan.optional sources index field.type).map fun found =>
        found.getD (schema.default field.type)
  | .skip => .ok (schema.default field.type)

/-- A new record, every field converted in the order of declaration. -/
def bindFrom (schema : Schema) (type : RecordType) (sources : Dict Source) :
    Except BindError (List Datum) :=
  inOrder ((type.fields.zip (steps type.settings)).map fun (field, step) =>
    construct schema type.plan sources field step)

end RecordType

namespace Source

def unsupported (schema : Schema) (value : Value) (type : Ty) : ConvertError :=
  .unsupported value.kind (schema.fullName type)

/-- Converts the entries of a map, each key before its value. -/
def entries (key : AtomType) (item : Ty) (sources : Dict Source) :
    Except ConvertError (List (Atom × Datum)) :=
  inOrder (sources.map fun (name, source) => do
    let atom ← Atom.ofValue key (.string name)
    let datum ← source item
    return (atom, datum))

/-- Binds a nested record. -/
def record (schema : Schema) (shape : String) (sources : Dict Source) :
    Except ConvertError Datum :=
  match schema.find shape with
  | none => .ok (.record shape [])
  | some type =>
      match type.bindFrom schema sources with
      | .ok members => .ok (.record shape members)
      | .error error => .error (.record error)

/-- A value as a source, given its items and its entries as sources. -/
def ofParts (schema : Schema) (value : Value) (items : List Source) (sources : Dict Source) : Source
  | .atom type => (Atom.ofValue type value).map .atom
  | .float32 => (Binary64.ofValue value).map fun number => .float number.narrow
  | .float64 => (Binary64.ofValue value).map .float
  | .value => .ok (.value value)
  | .option item =>
      if value.isNull then .ok .absent
      else (ofParts schema value items sources item).map .present
  | .boxed item => ofParts schema value items sources item
  | .list item =>
      match value with
      | .null => .ok (.list [])
      | .list _ => (inOrder (items.map fun source => source item)).map .list
      | _ => .error (unsupported schema value (.list item))
  | .map order key item =>
      match value with
      | .null => .ok (.map [])
      | .map _ | .record _ _ _ =>
          (entries key item sources).map fun converted => .map (order.arrange converted)
      | _ => .error (unsupported schema value (.map order key item))
  | .record shape =>
      match value with
      | .null => .ok (schema.default (.record shape))
      | .map _ | .record _ _ _ => record schema shape sources
      | _ => .error (.unsupported value.kind shape)

end Source

mutual

/-- Converts a value to a type. -/
def convert (schema : Schema) : Value → Source
  | .list items => Source.ofParts schema (.list items) (itemSources schema items) []
  | .map entries => Source.ofParts schema (.map entries) [] (entrySources schema entries)
  | .record shape fields answers =>
      Source.ofParts schema (.record shape fields answers) [] (entrySources schema fields)
  | value => Source.ofParts schema value [] []

def itemSources (schema : Schema) : List Value → List Source
  | [] => []
  | item :: rest => convert schema item :: itemSources schema rest

def entrySources (schema : Schema) : List (String × Value) → Dict Source
  | [] => []
  | (key, value) :: rest => (key, convert schema value) :: entrySources schema rest

end

namespace RecordType

/-- Builds a record from attributes. -/
def bind (schema : Schema) (type : RecordType) (attrs : Dict Value) :
    Except BindError (List Datum) :=
  type.bindFrom schema (entrySources schema attrs)

/-- A step of a merge: keep what the attributes give a field, or write what was kept into a
member. -/
inductive MergeStep where
  | read (index : Nat) (field : RecordField)
  | write (place position : Nat)

/-- Reads for bound fields, the first of them at `index` of the plan. -/
def readSteps : Nat → List RecordField → List MergeStep
  | _, [] => []
  | index, field :: rest => .read index field :: readSteps (index + 1) rest

/-- Writes for the bound ones among fields, the first field at `position` of the record; what the
next bound one was given is kept at `place`. -/
def writeSteps : Nat → Nat → List RecordField → List MergeStep
  | _, _, [] => []
  | place, position, field :: rest =>
      if field.settings.skipped then writeSteps place (position + 1) rest
      else .write place position :: writeSteps (place + 1) (position + 1) rest

/-- Every field is read before one is written. -/
def mergeSteps (type : RecordType) : List MergeStep :=
  readSteps 0 type.bound ++ writeSteps 0 0 type.fields

/-- Reads a bound field, which has to be there unless it is optional. -/
def readField (plan : BindingPlan) (sources : Dict Source) (index : Nat) (field : RecordField) :
    Except BindError (Option Datum) :=
  if field.settings.optional then plan.optional sources index field.type
  else (plan.require sources index field.type).map some

/-- Writes what was kept at a place into a member, if it is there. -/
def writeMember (kept : List (Option Datum)) (place position : Nat) (members : List Datum) :
    List Datum :=
  match kept[place]? with
  | some (some datum) => members.set position datum
  | _ => members

/-- Runs steps on the members of a record. A step that fails ends the run and leaves the members as
they are by then. -/
def runSteps (plan : BindingPlan) (sources : Dict Source) :
    List MergeStep → List (Option Datum) → List Datum → Except BindError Unit × List Datum
  | [], _, members => (.ok (), members)
  | .read index field :: rest, kept, members =>
      match readField plan sources index field with
      | .ok found => runSteps plan sources rest (kept ++ [found]) members
      | .error error => (.error error, members)
  | .write place position :: rest, kept, members =>
      runSteps plan sources rest kept (writeMember kept place position members)

/-- Overwrites the members of a record that the attributes give. -/
def merge (schema : Schema) (type : RecordType) (attrs : Dict Value) (members : List Datum) :
    Except BindError Unit × List Datum :=
  runSteps type.plan (entrySources schema attrs) type.mergeSteps [] members

/-- Binds attributes onto a record in place. Missing attributes bind like none; a missing record is
an error. -/
def unmarshalInto (schema : Schema) (type : RecordType) (attrs : Option (Dict Value)) :
    Option (List Datum) → Except BindError Unit × Option (List Datum)
  | none => (.error .noTarget, none)
  | some members =>
      let (result, left) := type.merge schema (attrs.getD []) members
      (result, some left)

/-- The record that binding attributes onto a record leaves, where that succeeds. -/
def unmarshal (schema : Schema) (type : RecordType) (target : Option (List Datum))
    (attrs : Option (Dict Value)) : Except BindError (List Datum) :=
  let (result, left) := type.unmarshalInto schema attrs target
  result.map fun _ => left.getD []

end RecordType

end MarkupTemplate
