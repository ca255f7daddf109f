import Mathlib.Data.List.Nodup
import MarkupTemplate.Proofs.Binding.Rule
import MarkupTemplate.Proofs.Text.Numeral
import MarkupTemplate.Value.Access

/-!
What a record answers to. The table that a record is read by lists the names of its readable fields,
then their other keys, and of several entries under one key only the first. Main statement: a key is
looked up among the names first and among the other keys after that, in the order of the fields, and
the map that a record is shown as agrees with it under every name.
-/

namespace MarkupTemplate

namespace Dict

variable {α β : Type}

theorem find_append (key : String) (left right : Dict α) :
    find key (left ++ right) = (find key left).or (find key right) := by
  induction left with
  | nil => rfl
  | cons entry rest ih =>
      rw [List.cons_append, find, find, ih]
      split <;> rfl

theorem find_named (key : String) (name : β → String) (value : β → α) (items : List β) :
    find key (items.map fun item => (name item, value item)) =
      (items.find? fun item => name item = key).map value := by
  induction items with
  | nil => rfl
  | cons item rest ih =>
      rw [List.map_cons, find, List.find?_cons, ih]
      by_cases same : name item = key <;> simp [same]

/-- Items under several names each: the first one with the name is found. -/
theorem find_listed (key : String) (names : β → List String) (value : β → α) (items : List β) :
    find key (items.flatMap fun item => (names item).map fun name => (name, value item)) =
      (items.find? fun item => key ∈ names item).map value := by
  induction items with
  | nil => rfl
  | cons item rest ih =>
      have here := find_named key (fun name => name) (fun _ => value item) (names item)
      rw [List.flatMap_cons, find_append, ih, here, List.find?_cons]
      by_cases listed : key ∈ names item
      · have found : ((names item).find? fun name => name = key).isSome = true :=
          List.find?_isSome.mpr ⟨key, listed, decide_eq_true rfl⟩
        obtain ⟨name, found⟩ := Option.isSome_iff_exists.mp found
        simp [listed, found]
      · have none : ((names item).find? fun name => name = key) = none :=
          List.find?_eq_none.mpr fun name inside same => listed (of_decide_eq_true same ▸ inside)
        simp [listed, none]

/-- Looking up what an entry leads to, where every entry leads to something. -/
theorem find_through (key : String) (lookUp : β → Option α) (entries : Dict β)
    (found : ∀ entry ∈ entries, (lookUp entry.2).isSome = true) :
    find key (entries.filterMap fun entry => (lookUp entry.2).map fun value => (entry.1, value)) =
      (find key entries).bind lookUp := by
  induction entries with
  | nil => rfl
  | cons entry rest ih =>
      obtain ⟨value, here⟩ := Option.isSome_iff_exists.mp (found entry List.mem_cons_self)
      have later := ih fun other inside => found other (List.mem_cons_of_mem entry inside)
      rw [List.filterMap_cons, here, Option.map_some, find, find, later]
      split
      · exact here.symm
      · rfl

end Dict

theorem find_first_of_each (key : String) (seen : List String) (entries : Dict String) :
    Dict.find key (firstOfEach seen entries) =
      if key ∈ seen then none else Dict.find key entries := by
  induction entries generalizing seen with
  | nil => simp [firstOfEach, Dict.find]
  | cons entry rest ih =>
      obtain ⟨name, member⟩ := entry
      rw [firstOfEach, Dict.find]
      by_cases known : name ∈ seen
      · rw [if_pos known, ih seen]
        by_cases same : name = key
        · simp [← same, known]
        · rw [if_neg same]
      · rw [if_neg known, Dict.find, ih (name :: seen)]
        by_cases same : name = key
        · simp [← same, known]
        · simp [same, Ne.symm same]

theorem first_of_each_sublist (seen : List String) (entries : Dict String) :
    (firstOfEach seen entries).Sublist entries := by
  induction entries generalizing seen with
  | nil => exact List.Sublist.refl _
  | cons entry rest ih =>
      rw [firstOfEach]
      split
      · exact (ih seen).cons entry
      · exact (ih _).cons_cons entry

/-! The members of a record are told apart: by their names, or by their positions in a tuple. -/

/-- Either no field has a name, or all have one and no two the same. -/
def Declaration.Regular (declaration : Declaration) : Prop :=
  (∀ declared ∈ declaration.fields, declared.name = none) ∨
    (∀ declared ∈ declaration.fields, declared.name.isSome = true) ∧
      (declaration.fields.map (·.name)).Nodup

def positionName (position : Nat) : String := String.ofList (numeral 10 position)

theorem position_name_injective : Function.Injective positionName := by
  intro position other same
  have digits := congrArg (readNumeral 10) (String.ofList_injective same)
  rw [read_decimal, read_decimal] at digits
  exact Option.some.inj digits

theorem settings_member (position : Nat) (declared : FieldDeclaration) (settings : Settings)
    (accepted : declared.settings position = .ok settings) :
    settings.member = declared.name.getD (positionName position) := by
  obtain ⟨chosen, _, accepted⟩ := bind_ok accepted
  cases named : declared.name with
  | some name =>
      rw [named] at accepted
      cases accepted
      rfl
  | none =>
      rw [named] at accepted
      cases accepted
      rfl

theorem settings_from_members (position : Nat) (fields : List FieldDeclaration)
    (settings : List Settings) (accepted : settingsFrom position fields = .ok settings) :
    settings.map (·.member) =
      (fields.zipIdx position).map fun entry => entry.1.name.getD (positionName entry.2) := by
  induction fields generalizing position settings with
  | nil =>
      cases accepted
      rfl
  | cons declared rest ih =>
      obtain ⟨here, first, accepted⟩ := bind_ok accepted
      obtain ⟨later, others, accepted⟩ := bind_ok accepted
      cases accepted
      rw [List.map_cons, List.zipIdx_cons, List.map_cons, ih (position + 1) later others,
        settings_member position declared here first]

theorem members_distinct (declaration : Declaration) (settings : List Settings)
    (regular : declaration.Regular) (accepted : declaration.settings = .ok settings) :
    (settings.map (·.member)).Nodup := by
  unfold Declaration.settings at accepted
  split at accepted
  case isTrue => cases accepted
  case isFalse =>
    rw [settings_from_members 0 declaration.fields settings accepted]
    rcases regular with unnamed | ⟨named, distinct⟩
    · have positions : (declaration.fields.zipIdx.map fun entry =>
          entry.1.name.getD (positionName entry.2)) =
          (declaration.fields.zipIdx.map Prod.snd).map positionName := by
        rw [List.map_map]
        refine List.map_congr_left fun entry inside => ?_
        rw [unnamed entry.1 (List.fst_mem_of_mem_zipIdx inside)]
        rfl
      rw [positions, List.zipIdx_map_snd]
      exact (List.nodup_range' ..).map position_name_injective
    · have names : (declaration.fields.zipIdx.map fun entry =>
          entry.1.name.getD (positionName entry.2)).map some =
          (declaration.fields.zipIdx.map Prod.fst).map (·.name) := by
        rw [List.map_map, List.map_map]
        refine List.map_congr_left fun entry inside => ?_
        obtain ⟨name, given⟩ :=
          Option.isSome_iff_exists.mp (named entry.1 (List.fst_mem_of_mem_zipIdx inside))
        simp [given]
      rw [List.zipIdx_map_fst] at names
      exact List.Nodup.of_map some (names ▸ distinct)

/-- The readable fields, each with the value of its member. -/
def RecordType.readings (type : RecordType) (values : List Value) : List (Settings × Value) :=
  (type.settings.zip values).filter fun entry => !entry.1.skipped

section

variable (type : RecordType) (values : List Value)

section

variable (filled : values.length = type.fields.length)

include filled

theorem readings_settings : (type.readings values).map Prod.fst = readable type.settings := by
  have whole : (type.settings.zip values).map Prod.fst = type.settings :=
    List.map_fst_zip (by simp [RecordType.settings, filled])
  rw [readable, ← whole, List.filter_map, RecordType.readings]
  rfl

theorem reading_found (distinct : (type.settings.map (·.member)).Nodup)
    (reading : Settings × Value) (inside : reading ∈ type.readings values) :
    Dict.find reading.1.member ((type.settings.map (·.member)).zip values) = some reading.2 := by
  have names : Dict.keys ((type.settings.map (·.member)).zip values) =
      type.settings.map (·.member) :=
    List.map_fst_zip (by simp [RecordType.settings, filled])
  refine Dict.find_of_mem _ _ _ (by rwa [Dict.Distinct, names]) ?_
  rw [List.zip_map_left]
  exact List.mem_map_of_mem (List.mem_of_mem_filter inside)

theorem record_table_readings :
    recordTable type.settings =
      firstOfEach []
        ((type.readings values).map (fun reading => (reading.1.name, reading.1.member)) ++
          (type.readings values).flatMap fun reading =>
            reading.1.aliases.map fun name => (name, reading.1.member)) := by
  rw [recordTable, ← readings_settings type values filled, List.map_map, List.flatMap_map]
  rfl

theorem record_table_member (entry : String × String) (inside : entry ∈ recordTable type.settings) :
    ∃ reading ∈ type.readings values, reading.1.member = entry.2 := by
  rw [record_table_readings type values filled] at inside
  rcases List.mem_append.mp ((first_of_each_sublist [] _).mem inside) with named | other
  · obtain ⟨reading, among, rfl⟩ := List.mem_map.mp named
    exact ⟨reading, among, rfl⟩
  · obtain ⟨reading, among, under⟩ := List.mem_flatMap.mp other
    obtain ⟨name, _, rfl⟩ := List.mem_map.mp under
    exact ⟨reading, among, rfl⟩

/-- A key is looked up among the names, and then among the other keys. -/
theorem record_table_find (key : String) :
    Dict.find key (recordTable type.settings) =
      (((type.readings values).find? fun reading => reading.1.name = key).or
        ((type.readings values).find? fun reading => key ∈ reading.1.aliases)).map
          (·.1.member) := by
  have named := Dict.find_named key (·.1.name) (·.1.member) (type.readings values)
  have other := Dict.find_listed key (·.1.aliases) (·.1.member) (type.readings values)
  rw [record_table_readings type values filled, find_first_of_each, if_neg List.not_mem_nil,
    Dict.find_append, named, other, Option.map_or]

theorem member_readings (distinct : (type.settings.map (·.member)).Nodup) (key : String) :
    (type.handle values).member key =
      (((type.readings values).find? fun reading => reading.1.name = key).or
        ((type.readings values).find? fun reading => key ∈ reading.1.aliases)).map Prod.snd := by
  have known := reading_found type values filled distinct
  have through := Dict.find_through key
    (fun member => Dict.find member ((type.settings.map (·.member)).zip values))
    (recordTable type.settings) (by
      intro entry inside
      obtain ⟨reading, among, same⟩ := record_table_member type values filled entry inside
      rw [← same, known reading among]
      rfl)
  refine through.trans ?_
  rw [record_table_find type values filled]
  cases chosen : ((type.readings values).find? fun reading => reading.1.name = key).or
      ((type.readings values).find? fun reading => key ∈ reading.1.aliases) with
  | none => rfl
  | some reading =>
      have among : reading ∈ type.readings values := by
        rcases Option.or_eq_some_iff.mp chosen with named | ⟨_, other⟩
        · exact List.mem_of_find?_eq_some named
        · exact List.mem_of_find?_eq_some other
      exact known reading among

end

theorem to_map_readings (distinct : ((type.readings values).map (·.1.name)).Nodup) :
    type.toMap values = (type.readings values).map fun reading => (reading.1.name, reading.2) := by
  refine Dict.ofList_distinct _ ?_
  rw [Dict.Distinct, Dict.keys, List.map_map]
  exact distinct

end

/-- Neither told to be skipped nor private under a name of its own; without such a name it has to
be given one, and then it may be private. -/
def FieldDeclaration.IsReadable (declared : FieldDeclaration) : Prop :=
  ¬declared.Asks .own "skip" ∧ (declared.name.isSome = true → declared.isPublic = true) ∧
    (declared.name = none → declared.explicitName.isSome = true)

theorem Declares.readable_iff {declared : FieldDeclaration} {settings : Settings}
    (declares : Declares declared settings) :
    settings.skipped = false ↔ declared.IsReadable := by
  rw [← Bool.not_eq_true, declares.skipped, FieldDeclaration.IsReadable]
  simp only [not_or, not_and, Bool.not_eq_false, ← Option.isSome_iff_ne_none]

theorem Settings.mem_aliases_iff (settings : Settings) (key : String) :
    key ∈ settings.aliases ↔ settings.secondary = some key ∨ settings.primary = some key := by
  simp only [Settings.aliases, List.mem_append, Option.mem_toList]

/-- A record answers to the names of its readable fields, and to their other keys where no name is
in the way; of several fields under one key the first answers. The map that it is shown as has the
names of these fields in order, each with what the record answers. -/
theorem record_answers (declaration : Declaration) (type : RecordType) (values : List Value)
    (regular : declaration.Regular) (accepted : declaration.settings = .ok type.settings)
    (filled : values.length = type.fields.length)
    (distinct : ((readable type.settings).map (·.name)).Nodup) :
    List.Forall₂ (fun declared settings => Declares declared settings ∧
        (settings.skipped = false ↔ declared.IsReadable)) declaration.fields type.settings ∧
      (∀ key, (type.handle values).member key =
        (((type.readings values).find? fun reading => reading.1.name = key).or
          ((type.readings values).find? fun reading =>
            reading.1.secondary = some key ∨ reading.1.primary = some key)).map Prod.snd) ∧
      Dict.keys (type.toMap values) = (readable type.settings).map (·.name) ∧
      ∀ reading ∈ type.readings values,
        Dict.find reading.1.name (type.toMap values) = some reading.2 ∧
          (type.handle values).member reading.1.name = some reading.2 := by
  have members := members_distinct declaration type.settings regular accepted
  have answered := member_readings type values filled members
  have names : (type.readings values).map (·.1.name) = (readable type.settings).map (·.name) := by
    rw [← readings_settings type values filled, List.map_map]
    rfl
  have shown := to_map_readings type values (names ▸ distinct)
  refine ⟨?_, ?_, ?_, ?_⟩
  · exact (declaration_declares declaration type.settings accepted).imp
      fun _ _ declares => ⟨declares, declares.readable_iff⟩
  · intro key
    rw [answered key]
    simp only [Settings.mem_aliases_iff]
  · rw [shown, ← names, Dict.keys, List.map_map]
    rfl
  · intro reading inside
    have found : Dict.find reading.1.name (type.toMap values) = some reading.2 := by
      refine Dict.find_of_mem _ _ _ ?_ (shown ▸ List.mem_map_of_mem inside)
      exact Dict.distinct_ofList _
    have first := Dict.find_named reading.1.name (·.1.name) Prod.snd (type.readings values)
    rw [← shown, found] at first
    refine ⟨found, ?_⟩
    rw [answered, Option.map_or, ← first, Option.some_or]

/-- The shared key of the first field is the name of the second, and both have one explicit key; the
second is written as a raw identifier and takes its shared key back. -/
def noteDeclaration : Declaration :=
  ⟨.named, [⟨"title", true, "String",
      [⟨.own, [.assigned "name" (.text "heading")]⟩,
        ⟨.shared, [.assigned "rename" (.text "body")]⟩]⟩,
    ⟨"r#body", true, "String",
      [⟨.own, [.assigned "name" (.text "heading")]⟩,
        ⟨.shared, [.bare "skip", .assigned "rename" (.text "text")]⟩]⟩,
    ⟨"secret", false, "String", [⟨.own, [.assigned "name" (.text "key")]⟩]⟩]⟩

/-- The record type of that declaration. -/
def sampleNote : RecordType :=
  ⟨"Note", "Note",
    [((RecordField.named "title" .string).withPrimary "heading").withSecondary "body",
    (RecordField.item "r#body" "body" .string).withPrimary "heading",
    (RecordField.hidden "secret" "secret" .string).withPrimary "key"], []⟩

theorem note_regular : noteDeclaration.Regular := .inr ⟨by decide, by decide⟩

theorem record_answers_note :
    noteDeclaration.Regular ∧ noteDeclaration.settings = .ok sampleNote.settings ∧
      ((readable sampleNote.settings).map (·.name)).Nodup ∧
      (sampleNote.handle [.int 1, .int 2, .int 3]).member "title" = some (.int 1) ∧
      (sampleNote.handle [.int 1, .int 2, .int 3]).member "body" = some (.int 2) ∧
      (sampleNote.handle [.int 1, .int 2, .int 3]).member "heading" = some (.int 1) ∧
      (sampleNote.handle [.int 1, .int 2, .int 3]).member "text" = none ∧
      (sampleNote.handle [.int 1, .int 2, .int 3]).member "key" = none ∧
      Dict.keys (sampleNote.toMap [.int 1, .int 2, .int 3]) = ["title", "body"] := by
  have accepted : noteDeclaration.settings = .ok sampleNote.settings := by rfl
  have distinct : ((readable sampleNote.settings).map (·.name)).Nodup := by decide
  have ⟨_, answered, names, _⟩ := record_answers noteDeclaration sampleNote
    [.int 1, .int 2, .int 3] note_regular accepted rfl distinct
  exact ⟨note_regular, accepted, distinct, answered "title", answered "body", answered "heading",
    answered "text", answered "key", names⟩

/-- A tuple with a single field, which is private and is given a name. -/
def itemDeclaration : Declaration :=
  ⟨.tuple, [⟨none, false, "u8", [⟨.own, [.assigned "name" (.text "x")]⟩]⟩]⟩

def sampleItem : RecordType := ⟨"Item", "Item", [.item "0" "x" (.int .u8)], []⟩

/-- Of a tuple also a private field is read. -/
theorem private_item_read :
    (∀ declared ∈ itemDeclaration.fields, declared.isPublic = false) ∧
      itemDeclaration.settings = .ok sampleItem.settings ∧
      (sampleItem.handle [.int 5]).member "x" = some (.int 5) :=
  ⟨by decide, rfl, rfl⟩

end MarkupTemplate
