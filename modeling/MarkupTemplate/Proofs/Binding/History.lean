import MarkupTemplate.Proofs.Binding.Merging

/-!
Runs of merges into one record. A call succeeds by what its attributes hold, whatever
the record holds, and a call that fails leaves the record alone. So a run of calls leaves every
bound field as the last successful call that had a value for it left it.
-/

namespace MarkupTemplate

theorem taken_ok_iff (schema : Schema) (attrs : Dict Value) (field : RecordField) :
    (∃ found, field.taken schema attrs = .ok found) ↔
      (field.settings.optional = false → ∃ value, field.given attrs = some value) ∧
      ∀ value, field.given attrs = some value →
        ∃ datum, convert schema value field.type = .ok datum := by
  rw [RecordField.taken]
  cases given : field.given attrs with
  | none => cases optional : field.settings.optional <;> simp
  | some value =>
      dsimp only
      cases read : convert schema value field.type with
      | ok datum => simp [read]
      | error error => simp [read]

namespace RecordType

/-- Every required field is there, and what is there for a bound field is of its type. -/
def Accepts (schema : Schema) (type : RecordType) (attrs : Dict Value) : Prop :=
  ∀ field ∈ type.bound,
    (field.settings.optional = false → ∃ value, field.given attrs = some value) ∧
    ∀ value, field.given attrs = some value →
      ∃ datum, convert schema value field.type = .ok datum

/-- What a record is after calls one after another, each with attributes or without. -/
def runCalls (schema : Schema) (type : RecordType) :
    List (Option (Dict Value)) → Option (List Datum) → Option (List Datum)
  | [], target => target
  | attrs :: rest, target => runCalls schema type rest (type.unmarshalInto schema attrs target).2

/-- What the last successful call that had a value for a field converted it to, or what the field
held before the calls if there was none. -/
def LastGiven (schema : Schema) (type : RecordType) (field : RecordField)
    (calls : List (Option (Dict Value))) (start datum : Datum) : Prop :=
  (∃ before attrs after value, calls = before ++ attrs :: after ∧
    type.Accepts schema (attrs.getD []) ∧ field.given (attrs.getD []) = some value ∧
    convert schema value field.type = .ok datum ∧
    ∀ later ∈ after, type.Accepts schema (later.getD []) → field.given (later.getD []) = none) ∨
  (datum = start ∧
    ∀ attrs ∈ calls, type.Accepts schema (attrs.getD []) → field.given (attrs.getD []) = none)

theorem accepts_of_taken (schema : Schema) (type : RecordType) (attrs : Dict Value)
    (found : List (Option Datum))
    (read : inOrder (type.bound.map (·.taken schema attrs)) = .ok found) :
    type.Accepts schema attrs := by
  intro field member
  obtain ⟨index, _, placed⟩ := List.getElem_of_mem member
  obtain ⟨value, _, taken⟩ := in_order_ok _ type.bound found read index field
    (List.getElem?_eq_some_iff.mpr ⟨_, placed⟩)
  exact (taken_ok_iff schema attrs field).mp ⟨value, taken⟩

theorem refused_of_failed (schema : Schema) (type : RecordType) (attrs : Dict Value)
    (error : BindError) (read : inOrder (type.bound.map (·.taken schema attrs)) = .error error) :
    ¬ type.Accepts schema attrs := by
  intro accepts
  obtain ⟨field, member, failed⟩ := in_order_error _ type.bound error read
  obtain ⟨found, taken⟩ := (taken_ok_iff schema attrs field).mpr (accepts field member)
  rw [taken] at failed
  cases failed

theorem accepted_call (schema : Schema) (type : RecordType) (attrs : Option (Dict Value))
    (members : List Datum) (accepts : type.Accepts schema (attrs.getD [])) :
    ∃ left, type.unmarshalInto schema attrs (some members) = (.ok (), some left) ∧
      left.length = members.length ∧
      ∀ (position : Nat) (field : RecordField), type.fields[position]? = some field →
        left[position]? = members[position]?.map (field.overwritten schema (attrs.getD [])) := by
  cases read : inOrder (type.bound.map (·.taken schema (attrs.getD []))) with
  | error error => exact (refused_of_failed schema type _ error read accepts).elim
  | ok found =>
      obtain ⟨left, done, size⟩ := merge_done schema type (attrs.getD []) members found read
      exact ⟨left, by simp only [unmarshalInto, done], size⟩

theorem refused_call (schema : Schema) (type : RecordType) (attrs : Option (Dict Value))
    (members : List Datum) (refuses : ¬ type.Accepts schema (attrs.getD [])) :
    ∃ error, type.unmarshalInto schema attrs (some members) = (.error error, some members) := by
  cases read : inOrder (type.bound.map (·.taken schema (attrs.getD []))) with
  | error error =>
      have failed := merge_failed schema type (attrs.getD []) members error read
      exact ⟨error, by simp only [unmarshalInto, failed]⟩
  | ok found => exact (refuses (accepts_of_taken schema type _ found read)).elim

theorem call_ok_iff (schema : Schema) (type : RecordType) (attrs : Option (Dict Value))
    (members : List Datum) :
    (type.unmarshalInto schema attrs (some members)).1 = .ok () ↔
      type.Accepts schema (attrs.getD []) := by
  constructor
  · intro succeeds
    by_contra refuses
    obtain ⟨error, failed⟩ := refused_call schema type attrs members refuses
    rw [failed] at succeeds
    cases succeeds
  · intro accepts
    obtain ⟨left, done, _⟩ := accepted_call schema type attrs members accepts
    rw [done]

theorem failed_call (schema : Schema) (type : RecordType) (attrs : Option (Dict Value))
    (members : List Datum) (error : BindError) (left : Option (List Datum))
    (failed : type.unmarshalInto schema attrs (some members) = (.error error, left)) :
    left = some members := by
  have refuses : ¬ type.Accepts schema (attrs.getD []) := by
    rw [← call_ok_iff schema type attrs members, failed]
    exact fun same => by cases same
  obtain ⟨other, kept⟩ := refused_call schema type attrs members refuses
  exact congrArg Prod.snd (failed.symm.trans kept)

/-- What one call makes of a member: the converted value, if it succeeds and has one. -/
def Changes (schema : Schema) (type : RecordType) (field : RecordField)
    (attrs : Option (Dict Value)) (start middle : Datum) : Prop :=
  (type.Accepts schema (attrs.getD []) ∧ ∃ value, field.given (attrs.getD []) = some value ∧
    convert schema value field.type = .ok middle) ∨
  (middle = start ∧
    (type.Accepts schema (attrs.getD []) → field.given (attrs.getD []) = none))

theorem bound_of_placed (type : RecordType) (position : Nat) (field : RecordField)
    (placed : type.fields[position]? = some field) (takesPart : field.settings.skipped = false) :
    field ∈ type.bound := by
  refine List.mem_filter.mpr ⟨List.mem_of_getElem? placed, ?_⟩
  rw [takesPart]
  rfl

theorem call_changes (schema : Schema) (type : RecordType) (attrs : Option (Dict Value))
    (members : List Datum) (position : Nat) (field : RecordField) (start : Datum)
    (placed : type.fields[position]? = some field) (takesPart : field.settings.skipped = false)
    (held : members[position]? = some start) :
    ∃ left middle, (type.unmarshalInto schema attrs (some members)).2 = some left ∧
      left[position]? = some middle ∧ Changes schema type field attrs start middle := by
  by_cases accepts : type.Accepts schema (attrs.getD [])
  · obtain ⟨left, done, _, each⟩ := accepted_call schema type attrs members accepts
    have now := each position field placed
    rw [held, Option.map_some, RecordField.overwritten, if_neg (by simp [takesPart]),
      RecordField.converted] at now
    refine ⟨left, _, congrArg Prod.snd done, now, ?_⟩
    cases given : field.given (attrs.getD []) with
    | none => exact Or.inr ⟨rfl, fun _ => given⟩
    | some value =>
        have member := bound_of_placed type position field placed takesPart
        obtain ⟨datum, read⟩ := (accepts field member).2 value given
        exact Or.inl ⟨accepts, value, given, by rw [Option.bind_some, read]; rfl⟩
  · obtain ⟨error, kept⟩ := refused_call schema type attrs members accepts
    exact ⟨members, start, congrArg Prod.snd kept, held,
      Or.inr ⟨rfl, fun accepted => (accepts accepted).elim⟩⟩

theorem call_keeps (schema : Schema) (type : RecordType) (attrs : Option (Dict Value))
    (members : List Datum) (position : Nat) (field : RecordField)
    (placed : type.fields[position]? = some field) (skipped : field.settings.skipped = true) :
    ∃ left, (type.unmarshalInto schema attrs (some members)).2 = some left ∧
      left[position]? = members[position]? := by
  by_cases accepts : type.Accepts schema (attrs.getD [])
  · obtain ⟨left, done, _, each⟩ := accepted_call schema type attrs members accepts
    refine ⟨left, congrArg Prod.snd done, ?_⟩
    rw [each position field placed, field.overwritten_skipped schema _ skipped, Option.map_id, id]
  · obtain ⟨error, kept⟩ := refused_call schema type attrs members accepts
    exact ⟨members, congrArg Prod.snd kept, rfl⟩

-- The first of several calls counts where the others have nothing for the field.
theorem last_given_cons (schema : Schema) (type : RecordType) (field : RecordField)
    (attrs : Option (Dict Value)) (rest : List (Option (Dict Value))) (start middle datum : Datum)
    (first : Changes schema type field attrs start middle)
    (last : LastGiven schema type field rest middle datum) :
    LastGiven schema type field (attrs :: rest) start datum := by
  rcases last with ⟨before, call, after, value, rfl, more⟩ | ⟨rfl, unused⟩
  · exact Or.inl ⟨attrs :: before, call, after, value, rfl, more⟩
  · rcases first with ⟨accepts, value, given, read⟩ | ⟨rfl, idle⟩
    · exact Or.inl ⟨[], attrs, rest, value, rfl, accepts, given, read, unused⟩
    · exact Or.inr ⟨rfl, List.forall_mem_cons.mpr ⟨idle, unused⟩⟩

theorem run_total (schema : Schema) (type : RecordType) (calls : List (Option (Dict Value)))
    (initial : List Datum) :
    ∃ final, type.runCalls schema calls (some initial) = some final ∧
      final.length = initial.length := by
  induction calls generalizing initial with
  | nil => exact ⟨initial, rfl, rfl⟩
  | cons attrs rest ih =>
      by_cases accepts : type.Accepts schema (attrs.getD [])
      · obtain ⟨left, done, length, _⟩ := accepted_call schema type attrs initial accepts
        obtain ⟨final, run, same⟩ := ih left
        exact ⟨final, by rw [runCalls, done, run], same.trans length⟩
      · obtain ⟨error, kept⟩ := refused_call schema type attrs initial accepts
        obtain ⟨final, run, same⟩ := ih initial
        exact ⟨final, by rw [runCalls, kept, run], same⟩

theorem run_last_given (schema : Schema) (type : RecordType) (calls : List (Option (Dict Value)))
    (initial : List Datum) (position : Nat) (field : RecordField) (start : Datum)
    (placed : type.fields[position]? = some field) (takesPart : field.settings.skipped = false)
    (held : initial[position]? = some start) :
    ∃ final datum, type.runCalls schema calls (some initial) = some final ∧
      final[position]? = some datum ∧ LastGiven schema type field calls start datum := by
  induction calls generalizing initial start with
  | nil => exact ⟨initial, start, rfl, held, Or.inr ⟨rfl, fun _ absent => by cases absent⟩⟩
  | cons attrs rest ih =>
      obtain ⟨left, middle, state, now, changes⟩ :=
        call_changes schema type attrs initial position field start placed takesPart held
      obtain ⟨final, datum, run, last, given⟩ := ih left middle now
      exact ⟨final, datum, by rw [runCalls, state, run], last,
        last_given_cons schema type field attrs rest start middle datum changes given⟩

theorem run_keeps (schema : Schema) (type : RecordType) (calls : List (Option (Dict Value)))
    (initial : List Datum) (position : Nat) (field : RecordField)
    (placed : type.fields[position]? = some field) (skipped : field.settings.skipped = true) :
    ∃ final, type.runCalls schema calls (some initial) = some final ∧
      final[position]? = initial[position]? := by
  induction calls generalizing initial with
  | nil => exact ⟨initial, rfl, rfl⟩
  | cons attrs rest ih =>
      obtain ⟨left, state, same⟩ :=
        call_keeps schema type attrs initial position field placed skipped
      obtain ⟨final, run, kept⟩ := ih left
      exact ⟨final, by rw [runCalls, state, run], kept.trans same⟩

/-- A call succeeds exactly when its attributes are accepted, and leaves the record alone when it
fails. After any calls a bound field holds what the last successful one with a value for it gave,
and a skipped field what it held before. -/
theorem merge_runs_all_or_nothing (schema : Schema) (type : RecordType) :
    (∀ attrs members, (type.unmarshalInto schema attrs (some members)).1 = .ok () ↔
      type.Accepts schema (attrs.getD [])) ∧
    (∀ attrs members error left,
      type.unmarshalInto schema attrs (some members) = (.error error, left) →
        left = some members) ∧
    ∀ calls initial, ∃ final, type.runCalls schema calls (some initial) = some final ∧
      final.length = initial.length ∧
      ∀ (position : Nat) (field : RecordField) (start : Datum),
        type.fields[position]? = some field → initial[position]? = some start →
        ∃ datum, final[position]? = some datum ∧
          (field.settings.skipped = true → datum = start) ∧
          (field.settings.skipped = false → LastGiven schema type field calls start datum) := by
  refine ⟨call_ok_iff schema type, failed_call schema type, fun calls initial => ?_⟩
  obtain ⟨final, run, length⟩ := run_total schema type calls initial
  refine ⟨final, run, length, fun position field start placed held => ?_⟩
  cases skipped : field.settings.skipped with
  | true =>
      obtain ⟨other, again, kept⟩ :=
        run_keeps schema type calls initial position field placed skipped
      cases run.symm.trans again
      exact ⟨start, kept.trans held, fun _ => rfl, fun no => by cases no⟩
  | false =>
      obtain ⟨other, datum, again, last, given⟩ :=
        run_last_given schema type calls initial position field start placed skipped held
      cases run.symm.trans again
      exact ⟨datum, last, (fun no => by cases no), fun _ => given⟩

/-- The second and the third call lack the source of the picture. -/
def sampleCalls : List (Option (Dict Value)) :=
  [some [("src", .string "a"), ("width", .int 5)], some [("width", .int 7)], none,
    some [("src", .string "b"), ("alt", .null)]]

theorem merge_runs_all_or_nothing_picture :
    samplePicture.unmarshalInto ⟨"", [samplePicture]⟩ none (some samplePicture.defaults) =
        (.error (.missing "src" ["src"]), some samplePicture.defaults) ∧
      samplePicture.fields[3]? = some (RecordField.named "width" (.option (.int .u32))).optional ∧
      samplePicture.defaults[3]? = some .absent ∧
      samplePicture.runCalls ⟨"", [samplePicture]⟩ sampleCalls (some samplePicture.defaults) =
        some [.atom (.string "b"), .atom (.int 0), .atom (.string ""),
          .present (.atom (.int 5))] ∧
      LastGiven ⟨"", [samplePicture]⟩ samplePicture
        (RecordField.named "width" (.option (.int .u32))).optional sampleCalls .absent
        (.present (.atom (.int 5))) := by
  obtain ⟨_, fails, runs⟩ := merge_runs_all_or_nothing ⟨"", [samplePicture]⟩ samplePicture
  have refused : samplePicture.unmarshalInto ⟨"", [samplePicture]⟩ none
      (some samplePicture.defaults) =
      (.error (.missing "src" ["src"]), (samplePicture.unmarshalInto ⟨"", [samplePicture]⟩ none
        (some samplePicture.defaults)).2) := by rfl
  have kept := fails none samplePicture.defaults _ _ refused
  have ran : samplePicture.runCalls ⟨"", [samplePicture]⟩ sampleCalls
      (some samplePicture.defaults) =
      some [.atom (.string "b"), .atom (.int 0), .atom (.string ""),
        .present (.atom (.int 5))] := by rfl
  obtain ⟨final, run, _, each⟩ := runs sampleCalls samplePicture.defaults
  obtain ⟨datum, held, _, last⟩ := each 3 _ .absent rfl rfl
  cases ran.symm.trans run
  cases held
  exact ⟨by rw [refused, kept], rfl, rfl, ran, last rfl⟩

end RecordType

end MarkupTemplate
