import MarkupTemplate.Binding.Spelling.Arrangement
import MarkupTemplate.Text.Digits

/-!
Declarations of records. Beside a field stand options from two vocabularies, one
of its own and one that it shares with serializers; options of any other vocabulary
are passed over. The options are read one after another into the settings of the field.
-/

namespace MarkupTemplate

/-- The value behind an equals sign. -/
inductive OptionValue where
  | text (content : String)
  | other
  deriving DecidableEq

/-- An option as it is written: a bare name, a name with a value, or a name with options in
parentheses. -/
inductive FieldOption where
  | bare (name : String)
  | assigned (name : String) (value : OptionValue)
  | nested (name : String) (options : List FieldOption)

inductive Vocabulary where
  | own
  | shared
  | foreign
  deriving DecidableEq

structure OptionGroup where
  vocabulary : Vocabulary
  options : List FieldOption

/-- A field as it is declared. A field of a tuple has no name. -/
structure FieldDeclaration where
  name : Option String
  isPublic : Bool
  type : String
  groups : List OptionGroup

inductive DeclarationKind where
  | named
  | tuple
  | unit
  | other
  deriving DecidableEq

structure Declaration where
  kind : DeclarationKind
  fields : List FieldDeclaration

/-- How a field is looked up. -/
structure Settings where
  /-- The name by which the record itself knows the field, or its position in a tuple. -/
  member : String
  name : String
  type : String
  primary : Option String
  secondary : Option String
  optional : Bool
  skipped : Bool
  deriving DecidableEq

inductive DeclarationError where
  | notARecord
  | unknownOption
  | expectedText
  | expectedEquals
  | expectedComma
  | expectedParentheses (atEnd : Bool)
  | expectedOption
  deriving DecidableEq

def DeclarationError.message : DeclarationError → String
  | .notARecord => "Bind can only be derived for structs"
  | .unknownOption => "expected \x60name\x60, \x60omitempty\x60 or \x60skip\x60"
  | .expectedText => "expected string literal"
  | .expectedEquals => "expected \x60=\x60"
  | .expectedComma => "expected \x60,\x60"
  | .expectedParentheses atEnd =>
      (if atEnd then "unexpected end of input, " else "") ++ "expected parentheses"
  | .expectedOption => "unexpected end of input, expected nested attribute"

namespace FieldOption

def name : FieldOption → String
  | .bare name => name
  | .assigned name _ => name
  | .nested name _ => name

/-- The text that an option assigns. -/
def text : FieldOption → Except DeclarationError String
  | .assigned _ (.text content) => .ok content
  | .assigned _ .other => .error .expectedText
  | _ => .error .expectedEquals

/-- An option that takes no value has to end behind its name. -/
def ended : FieldOption → Except DeclarationError Unit
  | .bare _ => .ok ()
  | _ => .error .expectedComma

end FieldOption

/-- What the options of a field have set so far. `dropsSecondary` takes effect after the last
option. -/
structure Chosen where
  primary : Option String
  secondary : Option String
  optional : Bool
  skipped : Bool
  dropsSecondary : Bool
  deriving DecidableEq

namespace Chosen

def none : Chosen := ⟨.none, .none, false, false, false⟩

def readOwn (option : FieldOption) (chosen : Chosen) : Except DeclarationError Chosen :=
  if option.name = "name" then do
    let text ← option.text
    return { chosen with primary := some text }
  else if option.name = "omitempty" then do
    option.ended
    return { chosen with optional := true }
  else if option.name = "skip" then do
    option.ended
    return { chosen with skipped := true }
  else .error .unknownOption

/-- Reads the options of a renaming; only the name for reading counts. -/
def readRenames : List FieldOption → Chosen → Except DeclarationError Chosen
  | [], chosen => .ok chosen
  | option :: rest, chosen =>
      if option.name = "deserialize" then do
        let text ← option.text
        readRenames rest { chosen with secondary := some text }
      else readRenames rest chosen

/-- Reads a renaming; `last` says whether no option follows it. -/
def readRename (last : Bool) (option : FieldOption) (chosen : Chosen) :
    Except DeclarationError Chosen :=
  match option with
  | .assigned _ (.text content) => .ok { chosen with secondary := some content }
  | .assigned _ .other => .error .expectedText
  | .bare _ => .error (.expectedParentheses last)
  | .nested _ [] => .error .expectedOption
  | .nested _ options => readRenames options chosen

def readShared (last : Bool) (option : FieldOption) (chosen : Chosen) :
    Except DeclarationError Chosen :=
  if option.name = "rename" then readRename last option chosen
  else if option.name = "default" then .ok { chosen with optional := true }
  else if option.name = "skip" ∨ option.name = "skip_deserializing" then
    .ok { chosen with dropsSecondary := true }
  else .ok chosen

def readOptions (vocabulary : Vocabulary) :
    List FieldOption → Chosen → Except DeclarationError Chosen
  | [], chosen => .ok chosen
  | option :: rest, chosen => do
      let next ←
        match vocabulary with
        | .own => readOwn option chosen
        | .shared => readShared rest.isEmpty option chosen
        | .foreign => .ok chosen
      readOptions vocabulary rest next

def readGroups : List OptionGroup → Chosen → Except DeclarationError Chosen
  | [], chosen => .ok chosen
  | group :: rest, chosen => do
      let next ← readOptions group.vocabulary group.options chosen
      readGroups rest next

end Chosen

/-- The name without the mark of a raw identifier. -/
def plainName (name : String) : String :=
  match name.toList with
  | 'r' :: '#' :: rest => String.ofList rest
  | _ => name

/-- The settings of the field at a position. A named field that is not public is skipped; a field
without a name takes the primary key for its name, and is skipped where it has none. -/
def FieldDeclaration.settings (position : Nat) (declared : FieldDeclaration) :
    Except DeclarationError Settings := do
  let chosen ← Chosen.readGroups declared.groups .none
  let secondary := if chosen.dropsSecondary then none else chosen.secondary
  let type := Spelling.ofText declared.type
  match declared.name with
  | some name =>
      return ⟨name, plainName name, type, chosen.primary, secondary, chosen.optional,
        chosen.skipped || !declared.isPublic⟩
  | none =>
      return ⟨String.ofList (numeral 10 position), chosen.primary.getD "", type, none, secondary,
        chosen.optional, chosen.skipped || chosen.primary.isNone⟩

def settingsFrom : Nat → List FieldDeclaration → Except DeclarationError (List Settings)
  | _, [] => .ok []
  | position, declared :: rest => do
      let first ← declared.settings position
      let others ← settingsFrom (position + 1) rest
      return first :: others

/-- The settings of all fields of a record. -/
def Declaration.settings (declaration : Declaration) : Except DeclarationError (List Settings) :=
  if declaration.kind = .other then .error .notARecord else settingsFrom 0 declaration.fields

/-- The other names that a field answers to, the shared one first. -/
def Settings.aliases (settings : Settings) : List String :=
  settings.secondary.toList ++ settings.primary.toList

end MarkupTemplate
