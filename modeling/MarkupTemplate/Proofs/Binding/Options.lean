import Mathlib.Data.List.Forall2
import MarkupTemplate.Binding.Declaration
import MarkupTemplate.Outcome

/-!
What the options beside a field ask for. A key is the text that was assigned last, and
a request stands once any option makes it. The proof relates one option to what it adds, then all
the options of a field, and from them the settings of every field of an accepted declaration.
-/

namespace MarkupTemplate

namespace FieldOption

/-- The text that an option assigns to a name, if it does. -/
def assigns (name : String) (option : FieldOption) : List String :=
  if option.name = name then option.text.toOption.toList else []

/-- The names for reading that a renaming gives. -/
def renames : FieldOption → List String
  | .nested _ options => options.flatMap (assigns "deserialize")
  | option => option.text.toOption.toList

/-- The shared keys that an option gives. -/
def sharedKeys (option : FieldOption) : List String :=
  if option.name = "rename" then option.renames else []

end FieldOption

/-- What the options of both vocabularies add to what was chosen before them. -/
structure Chosen.Adds (own shared : List FieldOption) (first next : Chosen) : Prop where
  primary : next.primary = (own.flatMap (FieldOption.assigns "name")).getLast?.or first.primary
  secondary : next.secondary = (shared.flatMap FieldOption.sharedKeys).getLast?.or first.secondary
  optional : next.optional = true ↔ first.optional = true ∨
    (∃ option ∈ own, option.name = "omitempty") ∨ ∃ option ∈ shared, option.name = "default"
  skipped : next.skipped = true ↔ first.skipped = true ∨ ∃ option ∈ own, option.name = "skip"
  dropsSecondary : next.dropsSecondary = true ↔ first.dropsSecondary = true ∨
    (∃ option ∈ shared, option.name = "skip") ∨
      ∃ option ∈ shared, option.name = "skip_deserializing"

namespace Chosen

theorem adds_nothing (chosen : Chosen) : Adds [] [] chosen chosen := by
  constructor <;> simp

theorem Adds.trans {own shared own' shared' : List FieldOption} {first middle last : Chosen}
    (before : Adds own shared first middle) (after : Adds own' shared' middle last) :
    Adds (own ++ own') (shared ++ shared') first last where
  primary := by
    rw [after.primary, before.primary, List.flatMap_append, List.getLast?_append, Option.or_assoc]
  secondary := by
    rw [after.secondary, before.secondary, List.flatMap_append, List.getLast?_append,
      Option.or_assoc]
  optional := by
    rw [after.optional, before.optional]
    simp only [List.mem_append, or_and_right, exists_or, or_assoc, or_left_comm]
  skipped := by
    rw [after.skipped, before.skipped]
    simp only [List.mem_append, or_and_right, exists_or, or_assoc]
  dropsSecondary := by
    rw [after.dropsSecondary, before.dropsSecondary]
    simp only [List.mem_append, or_and_right, exists_or, or_assoc, or_left_comm]

theorem read_own_adds (option : FieldOption) (chosen next : Chosen)
    (read : readOwn option chosen = .ok next) : Adds [option] [] chosen next := by
  unfold readOwn at read
  split at read
  case isTrue named =>
    obtain ⟨content, text, read⟩ := bind_ok read
    cases read
    constructor <;> simp [FieldOption.assigns, named, text, Except.toOption]
  case isFalse unnamed =>
    have none : option.assigns "name" = [] := if_neg unnamed
    split at read
    case isTrue omits =>
      obtain ⟨_, _, read⟩ := bind_ok read
      cases read
      constructor <;> simp [none, omits]
    case isFalse keeps =>
      split at read
      case isTrue skips =>
        obtain ⟨_, _, read⟩ := bind_ok read
        cases read
        constructor <;> simp [none, skips]
      case isFalse => cases read

theorem read_renames (options : List FieldOption) (chosen next : Chosen)
    (read : readRenames options chosen = .ok next) :
    next = { chosen with
      secondary := (options.flatMap (FieldOption.assigns "deserialize")).getLast?.or
        chosen.secondary } := by
  induction options generalizing chosen with
  | nil => cases read; rfl
  | cons option rest ih =>
      rw [readRenames] at read
      split at read
      case isTrue named =>
        obtain ⟨content, text, read⟩ := bind_ok read
        rw [ih _ read]
        simp [FieldOption.assigns, named, text, Except.toOption, List.getLast?_cons]
      case isFalse unnamed =>
        rw [ih _ read]
        simp [FieldOption.assigns, unnamed]

theorem read_rename (last : Bool) (option : FieldOption) (chosen next : Chosen)
    (read : readRename last option chosen = .ok next) :
    next = { chosen with secondary := option.renames.getLast?.or chosen.secondary } := by
  cases option with
  | bare name => cases read
  | assigned name value =>
      cases value with
      | text content => cases read; rfl
      | other => cases read
  | nested name options =>
      cases options with
      | nil => cases read
      | cons option rest => exact read_renames (option :: rest) chosen next read

theorem read_shared_adds (last : Bool) (option : FieldOption) (chosen next : Chosen)
    (read : readShared last option chosen = .ok next) : Adds [] [option] chosen next := by
  unfold readShared at read
  split at read
  case isTrue renamed =>
    rw [read_rename last option chosen next read]
    constructor <;> simp [FieldOption.sharedKeys, renamed]
  case isFalse plain =>
    have none : option.sharedKeys = [] := if_neg plain
    split at read
    case isTrue defaulted =>
      cases read
      constructor <;> simp [none, defaulted]
    case isFalse required =>
      split at read
      case isTrue dropped =>
        cases read
        constructor <;> simp [none, dropped, required]
      case isFalse kept =>
        have ⟨bound, read'⟩ := not_or.mp kept
        cases read
        constructor <;> simp [none, required, bound, read']

/-- The options that belong to a vocabulary. -/
def within (asked vocabulary : Vocabulary) (options : List FieldOption) : List FieldOption :=
  if vocabulary = asked then options else []

theorem read_options_adds (vocabulary : Vocabulary) (options : List FieldOption)
    (chosen next : Chosen) (read : readOptions vocabulary options chosen = .ok next) :
    Adds (within .own vocabulary options) (within .shared vocabulary options) chosen next := by
  induction options generalizing chosen with
  | nil =>
      cases read
      cases vocabulary <;> exact adds_nothing _
  | cons option rest ih =>
      cases vocabulary with
      | own =>
          obtain ⟨middle, first, read⟩ := bind_ok read
          exact (read_own_adds option chosen middle first).trans (ih middle read)
      | shared =>
          obtain ⟨middle, first, read⟩ := bind_ok read
          exact (read_shared_adds rest.isEmpty option chosen middle first).trans (ih middle read)
      | foreign =>
          rw [readOptions] at read
          exact ih chosen read

theorem read_groups_adds (groups : List OptionGroup) (chosen next : Chosen)
    (read : readGroups groups chosen = .ok next) :
    Adds (groups.flatMap fun group => within .own group.vocabulary group.options)
      (groups.flatMap fun group => within .shared group.vocabulary group.options) chosen next := by
  induction groups generalizing chosen with
  | nil =>
      cases read
      exact adds_nothing _
  | cons group rest ih =>
      obtain ⟨middle, first, read⟩ := bind_ok read
      exact (read_options_adds group.vocabulary group.options chosen middle first).trans
        (ih middle read)

end Chosen

namespace FieldDeclaration

/-- The options of a field in one vocabulary, in the order in which they are read. -/
def optionsIn (vocabulary : Vocabulary) (declared : FieldDeclaration) : List FieldOption :=
  declared.groups.flatMap fun group => Chosen.within vocabulary group.vocabulary group.options

/-- Whether an option of the given name stands beside the field. -/
def Asks (declared : FieldDeclaration) (vocabulary : Vocabulary) (name : String) : Prop :=
  ∃ option ∈ declared.optionsIn vocabulary, option.name = name

/-- The text that was assigned last to the explicit name. -/
def explicitName (declared : FieldDeclaration) : Option String :=
  ((declared.optionsIn .own).flatMap (FieldOption.assigns "name")).getLast?

/-- The shared key that was given last. -/
def sharedName (declared : FieldDeclaration) : Option String :=
  ((declared.optionsIn .shared).flatMap FieldOption.sharedKeys).getLast?

/-- Whether the shared key is taken back, wherever that option stands. -/
def DropsShared (declared : FieldDeclaration) : Prop :=
  declared.Asks .shared "skip" ∨ declared.Asks .shared "skip_deserializing"

instance (declared : FieldDeclaration) (vocabulary : Vocabulary) (name : String) :
    Decidable (declared.Asks vocabulary name) :=
  inferInstanceAs (Decidable (∃ option ∈ declared.optionsIn vocabulary, option.name = name))

instance (declared : FieldDeclaration) : Decidable declared.DropsShared :=
  inferInstanceAs (Decidable (_ ∨ _))

end FieldDeclaration

/-- The settings that a declared field leads to. To a field of a tuple the explicit name is its
own name, and not one more key. -/
structure Declares (declared : FieldDeclaration) (settings : Settings) : Prop where
  name : settings.name = (declared.name.map plainName).getD (declared.explicitName.getD "")
  primary : settings.primary = declared.name.bind fun _ => declared.explicitName
  secondary : settings.secondary = if declared.DropsShared then none else declared.sharedName
  optional : settings.optional = true ↔
    declared.Asks .own "omitempty" ∨ declared.Asks .shared "default"
  skipped : settings.skipped = true ↔ declared.Asks .own "skip" ∨
    (declared.name.isSome ∧ declared.isPublic = false) ∨
    (declared.name = none ∧ declared.explicitName = none)

/-- What is chosen once all options of a field are read. -/
structure Chosen.Asked (declared : FieldDeclaration) (chosen : Chosen) : Prop where
  primary : chosen.primary = declared.explicitName
  secondary : chosen.secondary = declared.sharedName
  optional : chosen.optional = true ↔
    declared.Asks .own "omitempty" ∨ declared.Asks .shared "default"
  skipped : chosen.skipped = true ↔ declared.Asks .own "skip"
  dropsSecondary : chosen.dropsSecondary = true ↔ declared.DropsShared

theorem groups_asked (declared : FieldDeclaration) (chosen : Chosen)
    (read : Chosen.readGroups declared.groups .none = .ok chosen) : chosen.Asked declared := by
  have adds : Chosen.Adds (declared.optionsIn .own) (declared.optionsIn .shared) .none chosen :=
    Chosen.read_groups_adds declared.groups .none chosen read
  exact {
    primary := adds.primary.trans Option.or_none
    secondary := adds.secondary.trans Option.or_none
    optional := adds.optional.trans (or_iff_right Bool.false_ne_true)
    skipped := adds.skipped.trans (or_iff_right Bool.false_ne_true)
    dropsSecondary := adds.dropsSecondary.trans (or_iff_right Bool.false_ne_true) }

theorem settings_declares (position : Nat) (declared : FieldDeclaration) (settings : Settings)
    (accepted : declared.settings position = .ok settings) : Declares declared settings := by
  obtain ⟨chosen, read, accepted⟩ := bind_ok accepted
  have asked := groups_asked declared chosen read
  have dropped : (if chosen.dropsSecondary then none else chosen.secondary) =
      if declared.DropsShared then none else declared.sharedName := by
    simp only [asked.dropsSecondary, asked.secondary]
  cases named : declared.name with
  | some name =>
      rw [named] at accepted
      cases accepted
      exact {
        name := by rw [named]; rfl
        primary := by rw [named]; exact asked.primary
        secondary := dropped
        optional := asked.optional
        skipped := by simp [named, asked.skipped] }
  | none =>
      rw [named] at accepted
      cases accepted
      exact {
        name := by rw [named, asked.primary]; rfl
        primary := by rw [named]; rfl
        secondary := dropped
        optional := asked.optional
        skipped := by simp [named, asked.skipped, asked.primary] }

theorem settings_from_declares (position : Nat) (fields : List FieldDeclaration)
    (settings : List Settings) (accepted : settingsFrom position fields = .ok settings) :
    List.Forall₂ Declares fields settings := by
  induction fields generalizing position settings with
  | nil =>
      cases accepted
      exact .nil
  | cons declared rest ih =>
      obtain ⟨here, first, accepted⟩ := bind_ok accepted
      obtain ⟨later, others, accepted⟩ := bind_ok accepted
      cases accepted
      exact .cons (settings_declares position declared here first)
        (ih (position + 1) later others)

/-- An accepted declaration leads to the settings of its fields, one after another. -/
theorem declaration_declares (declaration : Declaration) (settings : List Settings)
    (accepted : declaration.settings = .ok settings) :
    List.Forall₂ Declares declaration.fields settings := by
  unfold Declaration.settings at accepted
  split at accepted
  case isTrue => cases accepted
  case isFalse => exact settings_from_declares 0 declaration.fields settings accepted

end MarkupTemplate
