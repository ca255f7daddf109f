import MarkupTemplate.Binding.Plan

/-!
Types of records. A record type knows its fields with their settings and types, and
the data of its default record. A schema holds the record types that may be
nested in each other, and what stands for them in messages.
-/

namespace MarkupTemplate

structure RecordField where
  settings : Settings
  type : Ty

structure RecordType where
  shape : String
  /-- The name with its path. -/
  path : String
  fields : List RecordField
  defaults : List Datum

structure Schema where
  /-- The path of the type of dynamic values. -/
  valuePath : String
  records : List RecordType

def RecordType.settings (type : RecordType) : List Settings := type.fields.map (·.settings)

def RecordType.bound (type : RecordType) : List RecordField :=
  type.fields.filter fun field => !field.settings.skipped

def RecordType.plan (type : RecordType) : BindingPlan :=
  .build type.shape (type.bound.map (·.settings.spec))

namespace Schema

def find (shape : String) (schema : Schema) : Option RecordType :=
  schema.records.find? fun type => type.shape == shape

def pathOf (schema : Schema) : Ty → String
  | .record shape => ((schema.find shape).map (·.path)).getD shape
  | _ => schema.valuePath

def fullName (schema : Schema) (type : Ty) : String := type.fullName schema.pathOf

/-- The default datum of a type. -/
def default (schema : Schema) : Ty → Datum
  | .atom type => .atom (.zero type)
  | .float32 | .float64 => .float .zero
  | .value => .value .null
  | .option _ => .absent
  | .boxed item => schema.default item
  | .list _ => .list []
  | .map _ _ _ => .map []
  | .record shape => .record shape (((schema.find shape).map (·.defaults)).getD [])

end Schema

/-- The names under which a record is read, each with the member that it gives: names before
aliases, and the first of several equal ones. -/
def firstOfEach : List String → List (String × String) → List (String × String)
  | _, [] => []
  | seen, (name, member) :: rest =>
      if name ∈ seen then firstOfEach seen rest
      else (name, member) :: firstOfEach (name :: seen) rest

def readable (fields : List Settings) : List Settings := fields.filter fun field => !field.skipped

def recordTable (fields : List Settings) : List (String × String) :=
  firstOfEach [] ((readable fields).map (fun field => (field.name, field.member)) ++
    (readable fields).flatMap fun field => field.aliases.map fun name => (name, field.member))

namespace RecordType

/-- The readable fields of a record, given the values of its members. -/
def toMap (type : RecordType) (values : List Value) : Dict Value :=
  Dict.ofList (((type.settings.zip values).filter fun entry => !entry.1.skipped).map
    fun entry => (entry.1.name, entry.2))

/-- What every readable name answers. -/
def answers (type : RecordType) (values : List Value) : Dict Value :=
  let members : Dict Value := (type.settings.map (·.member)).zip values
  (recordTable type.settings).filterMap fun entry =>
    (Dict.find entry.2 members).map fun value => (entry.1, value)

/-- A handle that gives read access to a record. -/
def handle (type : RecordType) (values : List Value) : Value :=
  .record type.shape (type.toMap values) (type.answers values)

/-- All members of a record, skipped ones too. -/
def members (type : RecordType) (values : List Value) : Value :=
  .map (Dict.ofList ((type.settings.map (·.member)).zip values))

end RecordType

mutual

/-- Reads typed data back as a value. A nested record is read as a map. -/
def Datum.toValue (schema : Schema) : Datum → Value
  | .atom content => content.toValue
  | .float number => .float number
  | .value content => content
  | .absent => .null
  | .present item => item.toValue schema
  | .list items => .list (itemsToValue schema items)
  | .map entries => .map (Dict.ofList (entriesToValue schema entries))
  | .record shape members =>
      let values := itemsToValue schema members
      .map (((schema.find shape).map fun type => type.toMap values).getD [])

def itemsToValue (schema : Schema) : List Datum → List Value
  | [] => []
  | item :: rest => item.toValue schema :: itemsToValue schema rest

def entriesToValue (schema : Schema) : List (Atom × Datum) → List (String × Value)
  | [] => []
  | (key, datum) :: rest => (key.text, datum.toValue schema) :: entriesToValue schema rest

end

end MarkupTemplate
