import MarkupTemplate.Message.Basic

/-!
The records of message elements as typed data. Every record type lists its fields
in the order in which its structure has them; a structure is written to data and read back
field by field.
-/

namespace MarkupTemplate

namespace Datum

def ofString (text : String) : Datum := .atom (.string text)

def ofBool (truth : Bool) : Datum := .atom (.bool truth)

def ofWord (number : UInt32) : Datum := .atom (.int number.toNat)

def ofOption {α : Type} (encode : α → Datum) : Option α → Datum
  | none => .absent
  | some item => .present (encode item)

def toString : Datum → String
  | .atom (.string text) => text
  | _ => ""

def toBool : Datum → Bool
  | .atom (.bool truth) => truth
  | _ => false

def toWord : Datum → UInt32
  | .atom (.int number) => UInt32.ofNat number.toNat
  | _ => 0

def toOption {α : Type} (decode : Datum → α) : Datum → Option α
  | .present item => some (decode item)
  | _ => none

end Datum

namespace Message

open RecordField

/-- Message records hold no other records. -/
def schema : Schema := .empty "Value"

def recordOf (shape : String) (fields : List RecordField) : RecordType :=
  ⟨shape, shape, fields, fields.map fun field => schema.default field.type⟩

def optionalOf (name : String) (type : Ty) : RecordField := (named name (.option type)).optional

def textType : RecordType := recordOf "Text" [(named "text" .string).optional]

def atType : RecordType :=
  recordOf "At" [optionalOf "id" .string, optionalOf "name" .string, optionalOf "role" .string,
    optionalOf "type" .string]

def sharpType : RecordType := recordOf "Sharp" [named "id" .string, optionalOf "name" .string]

def linkType : RecordType := recordOf "Link" [named "href" .string]

def resourceType : RecordType :=
  recordOf "Resource" [named "src" .string, optionalOf "title" .string, optionalOf "cache" .bool,
    optionalOf "width" (.int .u32), optionalOf "height" (.int .u32)]

def envelopeType : RecordType :=
  recordOf "Message" [optionalOf "id" .string, optionalOf "forward" .bool]

def authorType : RecordType :=
  recordOf "Author" [optionalOf "id" .string, optionalOf "name" .string,
    optionalOf "avatar" .string]

def text? (content : Option String) : Datum := .ofOption .ofString content

def At.toData (mention : At) : List Datum :=
  [text? mention.id, text? mention.name, text? mention.role, text? mention.type]

def Sharp.toData (channel : Sharp) : List Datum := [.ofString channel.id, text? channel.name]

def Resource.toData (resource : Resource) : List Datum :=
  [.ofString resource.src, text? resource.title, .ofOption .ofBool resource.cache,
   .ofOption .ofWord resource.width, .ofOption .ofWord resource.height]

def Envelope.toData (envelope : Envelope) : List Datum :=
  [text? envelope.id, .ofOption .ofBool envelope.forward]

def Author.toData (author : Author) : List Datum :=
  [text? author.id, text? author.name, text? author.avatar]

/-- The datum of a field, null where a record has fewer. -/
def fieldAt (data : List Datum) (index : Nat) : Datum := data[index]?.getD .absent

def stringAt (data : List Datum) (index : Nat) : String := (fieldAt data index).toString

def optionAt {α : Type} (decode : Datum → α) (data : List Datum) (index : Nat) : Option α :=
  (fieldAt data index).toOption decode

def textAt? : List Datum → Nat → Option String := optionAt Datum.toString

def At.ofData (data : List Datum) : At :=
  ⟨textAt? data 0, textAt? data 1, textAt? data 2,
   textAt? data 3⟩

def Sharp.ofData (data : List Datum) : Sharp := ⟨stringAt data 0, textAt? data 1⟩

def Resource.ofData (data : List Datum) : Resource :=
  ⟨stringAt data 0, textAt? data 1, optionAt Datum.toBool data 2, optionAt Datum.toWord data 3,
   optionAt Datum.toWord data 4⟩

def Envelope.ofData (data : List Datum) : Envelope :=
  ⟨textAt? data 0, optionAt Datum.toBool data 1⟩

def Author.ofData (data : List Datum) : Author :=
  ⟨textAt? data 0, textAt? data 1, textAt? data 2⟩

/-- The attributes of a record, under the names of its fields. -/
def attrsOf (type : RecordType) (data : List Datum) : Dict Value :=
  type.toMap (itemsToValue schema data)

/-- The attributes of a kind; those that are absent are null. -/
def Kind.attrs : Kind → Dict Value
  | .text content => attrsOf textType [.ofString content]
  | .at mention => attrsOf atType mention.toData
  | .sharp channel => attrsOf sharpType channel.toData
  | .link href => attrsOf linkType [.ofString href]
  | .resource _ file => attrsOf resourceType file.toData
  | .message envelope => attrsOf envelopeType envelope.toData
  | .author writer => attrsOf authorType writer.toData
  | .extension _ attrs => attrs
  | .styled _ | .lineBreak | .paragraph | .quote => []

end Message

end MarkupTemplate
