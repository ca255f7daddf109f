import MarkupTemplate.Binding.Convert

/-!
A collection of record types that exercises every part of binding: required and
optional fields, other keys, tuples, skipped fields, all scalar types, containers,
and records inside records.
-/

namespace MarkupTemplate

namespace RecordField

def ofSettings (member name : String) (skipped : Bool) (type : Ty) : RecordField :=
  ⟨⟨member, name, type.name, none, none, false, skipped⟩, type⟩

/-- A required field under its own name. -/
def named (name : String) (type : Ty) : RecordField := ofSettings name name false type

/-- A field of a tuple that is given a name. -/
def item (position name : String) (type : Ty) : RecordField := ofSettings position name false type

/-- A field that is neither bound nor readable. -/
def hidden (member name : String) (type : Ty) : RecordField := ofSettings member name true type

def optional (field : RecordField) : RecordField :=
  { field with settings := { field.settings with optional := true } }

def withPrimary (key : String) (field : RecordField) : RecordField :=
  { field with settings := { field.settings with primary := some key } }

def withSecondary (key : String) (field : RecordField) : RecordField :=
  { field with settings := { field.settings with secondary := some key } }

end RecordField

namespace Ty

def bool : Ty := .atom .bool

def char : Ty := .atom .char

def int (kind : IntKind) : Ty := .atom (.int kind)

def string : Ty := .atom .string

end Ty

namespace Schema

def empty (valuePath : String) : Schema := ⟨valuePath, []⟩

/-- Adds a record type whose default record has the default of every field. -/
def declare (shape path : String) (fields : List RecordField) (schema : Schema) : Schema :=
  let type : RecordType := ⟨shape, path, fields, fields.map fun field => schema.default field.type⟩
  { schema with records := schema.records ++ [type] }

/-- Declares several record types under a common path. -/
def declareAll (path : String) (types : List (String × List RecordField)) (schema : Schema) :
    Schema :=
  types.foldl (fun known type => known.declare type.1 (path ++ type.1) type.2) schema

end Schema

namespace Shapes

open RecordField

def channel : List RecordField :=
  [named "id" (.int .i64), named "enabled" .bool, named "tags" (.list .string),
   (named "topic" .string).optional,
   ((named "parent" (.option (.int .u64))).withSecondary "parentId").optional,
   (named "meta" (.map .ascending .string (.int .i32))).optional]

def guild : List RecordField :=
  [named "name" .string, (named "channel" (.option (.record "Channel"))).optional,
   hidden "cached" "cached" .bool]

def pinned : List RecordField := [named "channel" (.record "Channel")]

def wrapper : List RecordField := [item "0" "value" .string, hidden "1" "" (.int .u8)]

def pair : List RecordField :=
  [item "0" "first_item" (.int .i32),
   ((item "1" "second" (.list (.int .u8))).withSecondary "2nd").optional,
   (hidden "2" "" (.int .u8)).optional]

def image : List RecordField :=
  [named "src" .string, (named "width" (.option (.int .u32))).optional,
   ((named "alt" .string).withSecondary "altText").optional]

def quote : List RecordField :=
  [(named "id" .string).withPrimary "msgId", (named "image" (.option (.record "Image"))).optional,
   hidden "cached" "cached" .bool]

def keyed : List RecordField :=
  [((named "key" .string).withPrimary "primaryKey").withSecondary "jsonKey"]

def aliases : List RecordField :=
  [(named "a" (.int .i32)).withPrimary "b",
   ((named "b" (.int .i32)).withSecondary "a").optional,
   (((named "user_name" .string).withPrimary "x").withSecondary "y").optional,
   ((named "both_ways" (.int .i32)).withSecondary "in_key").optional,
   (named "skipped_name" (.int .i32)).optional,
   (named "half_skipped" (.int .i32)).optional,
   (named "type" (.option .string)).optional,
   (named "URLPath" .string).optional,
   ((named "blank" (.int .i32)).withPrimary "").optional,
   (named "with_args" (.int .i32)).optional,
   hidden "restricted" "restricted" (.int .i32),
   hidden "never" "never" (.int .i32)]

def scalars : List RecordField :=
  [named "b" .bool, named "c" .char, named "i8" (.int .i8), named "i16" (.int .i16),
   named "i32" (.int .i32), named "i64" (.int .i64), named "u8" (.int .u8),
   named "u16" (.int .u16), named "u32" (.int .u32), named "u64" (.int .u64),
   named "f32" .float32, named "f64" .float64, named "s" .string,
   named "any" .value].map optional

def containers : List RecordField :=
  [named "ints" (.list (.int .i32)), named "grid" (.list (.list .string)),
   named "opt" (.option (.option .bool)), named "boxed" (.boxed (.int .u8)),
   named "by_num" (.map .ascending (.int .u8) .bool),
   named "ordered" (.map .insertion .string .value),
   named "images" (.list (.record "Image")),
   named "named" (.map .ascending .string (.record "Keyed"))].map optional

def tree : List RecordField :=
  [named "name" .string, (named "left" (.option (.boxed (.record "Tree")))).optional,
   (named "kids" (.list (.record "Tree"))).optional]

/-- All record types, under the given path. A type stands behind those that its defaults need. -/
def schema (valuePath path : String) : Schema :=
  (Schema.empty valuePath).declareAll path
    [("Channel", channel), ("Guild", guild), ("Pinned", pinned), ("Wrapper", wrapper),
     ("Pair", pair), ("Image", image), ("Quote", quote), ("Keyed", keyed), ("Aliases", aliases),
     ("Scalars", scalars), ("Containers", containers), ("Tree", tree), ("Empty", []), ("Unit", [])]

/-- A record that can be read but not bound. A name of a field hides an equal alias. -/
def holder : List RecordField :=
  [named "title" .string, named "inner" .value, named "any" .value, named "list" (.list .value),
   named "plain" (.record "Keyed"), named "boxed" (.boxed (.int .i32)),
   named "none" (.option .value), named "hash" (.map .text (.int .i32) .string),
   (named "shadowed" .bool).withSecondary "title"]

def keyedHandle (key : Value) : Value :=
  RecordType.handle ⟨"Keyed", "Keyed", keyed, []⟩ [key]

def imageHandle (src : Value) : Value :=
  RecordType.handle ⟨"Image", "Image", image, []⟩ [src, .int 4, .string ""]

/-- The holder with the given key. -/
def holderHandle (key : String) : Value :=
  RecordType.handle ⟨"Holder", "Holder", holder, []⟩
    [.string "holder", keyedHandle (.string key), imageHandle (.string key),
     .list [keyedHandle (.string key), keyedHandle (.string "")],
     .map [("key", .string key)], .int (-3), .null, .map [("7", .string "seven")], .bool true]

end Shapes

end MarkupTemplate
