import MarkupTemplate.Binding.Datum
import MarkupTemplate.Binding.Declaration
import MarkupTemplate.Text.Case

/-!
Binding plans. A plan lists for every bound field the keys under which its value
may stand, the most explicit first, and whether it has to be there. Skipped
fields have no place in a plan, so a constructor numbers the others.
-/

namespace MarkupTemplate

structure FieldSpec where
  name : String
  primary : Option String
  secondary : Option String
  optional : Bool
  type : String

structure FieldPlan where
  name : String
  keys : List String
  type : String
  required : Bool
  deriving DecidableEq

structure BindingPlan where
  shape : String
  fields : List FieldPlan
  deriving DecidableEq

def addKey (keys : List String) (key : String) : List String :=
  if key = "" ∨ key ∈ keys then keys else keys ++ [key]

/-- Explicit keys first, then the name, also with its first letter lowered and in camel case. -/
def FieldSpec.keys (spec : FieldSpec) : List String :=
  (spec.primary.toList ++ spec.secondary.toList ++
    [spec.name, uncapitalize spec.name, camelCase spec.name]).foldl addKey []

def FieldSpec.plan (spec : FieldSpec) : FieldPlan :=
  ⟨spec.name, spec.keys, spec.type, !spec.optional⟩

def Settings.spec (settings : Settings) : FieldSpec :=
  ⟨settings.name, settings.primary, settings.secondary, settings.optional, settings.type⟩

/-- How a constructor comes to the value of a field. -/
inductive Step where
  | require (index : Nat)
  | optional (index : Nat)
  | skip
  deriving DecidableEq

/-- The steps for the fields of a record; `next` is the place that the next bound field has in the
plan. -/
def stepsFrom : Nat → List Settings → List Step
  | _, [] => []
  | next, settings :: rest =>
      if settings.skipped then .skip :: stepsFrom next rest
      else
        let step : Step := if settings.optional then .optional next else .require next
        step :: stepsFrom (next + 1) rest

def steps (fields : List Settings) : List Step := stepsFrom 0 fields

/-- A value that waits for the type that it is wanted in. -/
abbrev Source := Ty → Except ConvertError Datum

/-- The value under the first key that is present. -/
def firstPresent {α : Type} (entries : Dict α) : List String → Option α
  | [] => none
  | key :: rest =>
      match Dict.find key entries with
      | some value => some value
      | none => firstPresent entries rest

namespace BindingPlan

def build (shape : String) (specs : List FieldSpec) : BindingPlan := ⟨shape, specs.map (·.plan)⟩

/-- Reads the field at a place in the plan, if one of its keys is present. -/
def optional (plan : BindingPlan) (sources : Dict Source) (index : Nat) (type : Ty) :
    Except BindError (Option Datum) :=
  match plan.fields[index]? with
  | none => .ok none
  | some field =>
      match firstPresent sources field.keys with
      | none => .ok none
      | some source =>
          match source type with
          | .ok datum => .ok (some datum)
          | .error error => .error (.field field.name error)

/-- The error for a field that is not there; a place outside the plan has no name. -/
def missing (plan : BindingPlan) (index : Nat) : BindError :=
  match plan.fields[index]? with
  | some field => .missing field.name field.keys
  | none => .missing "?" []

/-- Reads the field at a place in the plan, which has to be there. -/
def require (plan : BindingPlan) (sources : Dict Source) (index : Nat) (type : Ty) :
    Except BindError Datum := do
  match ← plan.optional sources index type with
  | some datum => return datum
  | none => throw (plan.missing index)

end BindingPlan

end MarkupTemplate
