import MarkupTemplate.Dict

/-!
The types that records are made of. Atoms have an exact equality and an order,
so they serve as keys of maps. Every type has a short spelling, which plans
show, and a full one with the path of each named type, which errors show.
-/

namespace MarkupTemplate

inductive IntKind where
  | i8
  | i16
  | i32
  | i64
  | isize
  | u8
  | u16
  | u32
  | u64
  | usize
  deriving DecidableEq

namespace IntKind

def signed : IntKind → Bool
  | .i8 | .i16 | .i32 | .i64 | .isize => true
  | .u8 | .u16 | .u32 | .u64 | .usize => false

def width : IntKind → Nat
  | .i8 | .u8 => 8
  | .i16 | .u16 => 16
  | .i32 | .u32 => 32
  | .i64 | .u64 | .isize | .usize => 64

def least (kind : IntKind) : Int :=
  if kind.signed then -(Nat.pow 2 (kind.width - 1) : Int) else 0

def greatest (kind : IntKind) : Int :=
  if kind.signed then (Nat.pow 2 (kind.width - 1) : Int) - 1 else (Nat.pow 2 kind.width : Int) - 1

def name : IntKind → String
  | .i8 => "i8"
  | .i16 => "i16"
  | .i32 => "i32"
  | .i64 => "i64"
  | .isize => "isize"
  | .u8 => "u8"
  | .u16 => "u16"
  | .u32 => "u32"
  | .u64 => "u64"
  | .usize => "usize"

end IntKind

inductive AtomType where
  | bool
  | char
  | int (kind : IntKind)
  | string
  deriving DecidableEq

/-- In which order a map keeps its entries: by the text of the key, by the key, or as they came. -/
inductive MapOrder where
  | text
  | ascending
  | insertion
  deriving DecidableEq

inductive Ty where
  | atom (type : AtomType)
  | float32
  | float64
  | value
  | option (item : Ty)
  | boxed (item : Ty)
  | list (item : Ty)
  | map (order : MapOrder) (key : AtomType) (item : Ty)
  | record (shape : String)
  deriving DecidableEq

def AtomType.name : AtomType → String
  | .bool => "bool"
  | .char => "char"
  | .int kind => kind.name
  | .string => "String"

def AtomType.fullName : AtomType → String
  | .string => "alloc::string::String"
  | type => type.name

def MapOrder.name : MapOrder → String
  | .text => "HashMap"
  | .ascending => "BTreeMap"
  | .insertion => "IndexMap"

def MapOrder.fullName : MapOrder → String
  | .text => "std::collections::hash::map::HashMap"
  | .ascending => "alloc::collections::btree::map::BTreeMap"
  | .insertion => "indexmap::map::IndexMap"

namespace Ty

def applied (name : String) (arguments : String) : String := name ++ "<" ++ arguments ++ ">"

def name : Ty → String
  | .atom type => type.name
  | .float32 => "f32"
  | .float64 => "f64"
  | .value => "Value"
  | .option item => applied "Option" item.name
  | .boxed item => applied "Box" item.name
  | .list item => applied "Vec" item.name
  | .map order key item => applied order.name (key.name ++ "," ++ item.name)
  | .record shape => shape

/-- The spelling with paths; `paths` knows those of the types that are declared elsewhere. -/
def fullName (paths : Ty → String) : Ty → String
  | .atom type => type.fullName
  | .float32 => "f32"
  | .float64 => "f64"
  | .value => paths .value
  | .option item => applied "core::option::Option" (item.fullName paths)
  | .boxed item => applied "alloc::boxed::Box" (item.fullName paths)
  | .list item => applied "alloc::vec::Vec" (item.fullName paths)
  | .map order key item => applied order.fullName (key.fullName ++ ", " ++ item.fullName paths)
  | .record shape => paths (.record shape)

end Ty

end MarkupTemplate
