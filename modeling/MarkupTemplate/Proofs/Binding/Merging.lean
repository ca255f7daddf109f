import MarkupTemplate.Binding.Shapes
import MarkupTemplate.Proofs.Binding.Reading

/-!
Merging attributes into a record. All reads stand before the first write, so a read
that fails finds the record as it was, and writes never fail. Main statement: a merge into the
default record leaves what binding a new record gives, or fails for the same reason.
-/

namespace MarkupTemplate

/-- The datum that attributes hold for a field, if they hold one of its type. -/
def RecordField.converted (schema : Schema) (attrs : Dict Value) (field : RecordField) :
    Option Datum :=
  (field.given attrs).bind fun value => (convert schema value field.type).toOption

/-- What a member becomes in a merge that succeeds. -/
def RecordField.overwritten (schema : Schema) (attrs : Dict Value) (field : RecordField)
    (member : Datum) : Datum :=
  if field.settings.skipped then member else (field.converted schema attrs).getD member

theorem RecordField.overwritten_skipped (schema : Schema) (attrs : Dict Value)
    (field : RecordField) (skipped : field.settings.skipped = true) :
    field.overwritten schema attrs = id := funext fun _ => if_pos skipped

theorem RecordField.overwritten_bound (schema : Schema) (attrs : Dict Value) (field : RecordField)
    (bound : ¬field.settings.skipped = true) :
    field.overwritten schema attrs = fun member => (field.converted schema attrs).getD member :=
  funext fun _ => if_neg bound

theorem converted_of_taken (schema : Schema) (attrs : Dict Value) (field : RecordField)
    (found : Option Datum) (taken : field.taken schema attrs = .ok found) :
    field.converted schema attrs = found := by
  rw [RecordField.taken] at taken
  rw [RecordField.converted]
  cases given : field.given attrs with
  | none =>
      rw [given] at taken
      cases optional : field.settings.optional with
      | true => rw [optional] at taken; cases taken; rfl
      | false => rw [optional] at taken; cases taken
  | some value =>
      rw [given] at taken
      dsimp only at taken
      rw [Option.bind_some]
      cases read : convert schema value field.type with
      | ok datum => rw [read] at taken; cases taken; rfl
      | error error => rw [read] at taken; cases taken

namespace RecordType

theorem run_reads (schema : Schema) (attrs : Dict Value) (plan : BindingPlan) (next : Nat)
    (bound : List RecordField) (places : Places plan next bound) (steps : List MergeStep)
    (kept : List (Option Datum)) (members : List Datum) :
    runSteps plan (entrySources schema attrs) (readSteps next bound ++ steps) kept members =
      match inOrder (bound.map (·.taken schema attrs)) with
      | .ok found => runSteps plan (entrySources schema attrs) steps (kept ++ found) members
      | .error error => (.error error, members) := by
  induction bound generalizing next kept with
  | nil =>
      change runSteps plan _ steps kept members = runSteps plan _ steps (kept ++ []) members
      rw [List.append_nil]
  | cons field rest ih =>
      have here := read_field_taken schema attrs plan next field
        (places_first plan next field rest places)
      rw [readSteps, List.cons_append, runSteps, here, List.map_cons, inOrder]
      cases field.taken schema attrs with
      | error error => rfl
      | ok found =>
          dsimp only
          rw [ih (next + 1) (places_rest plan next field rest places)]
          cases inOrder (rest.map (·.taken schema attrs)) with
          | error error => rfl
          | ok others =>
              change runSteps plan _ steps (kept ++ [found] ++ others) members =
                runSteps plan _ steps (kept ++ found :: others) members
              rw [List.append_assoc, List.singleton_append]

theorem write_member_at (kept : List (Option Datum)) (place position : Nat) (members : List Datum)
    (found : Option Datum) (placed : kept[place]? = some found) (index : Nat) :
    (writeMember kept place position members)[index]? =
      if index = position then members[index]?.map fun member => found.getD member
      else members[index]? := by
  rw [writeMember, placed]
  cases found with
  | none => by_cases same : index = position <;> simp [same]
  | some datum =>
      by_cases same : index = position
      · subst same
        cases present : members[index]? <;> simp [List.getElem?_set_self', present]
      · simp [same, Ne.symm same]

theorem write_member_length (kept : List (Option Datum)) (place position : Nat)
    (members : List Datum) : (writeMember kept place position members).length = members.length := by
  unfold writeMember
  split <;> simp

-- Writing leaves the members before its position, and overwrites each later one once.
theorem run_writes (schema : Schema) (attrs : Dict Value) (plan : BindingPlan)
    (sources : Dict Source) (kept : List (Option Datum)) (fields : List RecordField)
    (place position : Nat) (members : List Datum)
    (holds : ∀ (index : Nat) (field : RecordField), (unskipped fields)[index]? = some field →
      kept[place + index]? = some (field.converted schema attrs)) :
    ∃ final, runSteps plan sources (writeSteps place position fields) kept members =
        (.ok (), final) ∧
      final.length = members.length ∧
      (∀ index < position, final[index]? = members[index]?) ∧
      ∀ (index : Nat) (field : RecordField), fields[index]? = some field →
        final[position + index]? =
          members[position + index]?.map (field.overwritten schema attrs) := by
  induction fields generalizing place position members with
  | nil => exact ⟨members, rfl, rfl, fun _ _ => rfl, fun _ _ absent => by cases absent⟩
  | cons field rest ih =>
      by_cases skipped : field.settings.skipped = true
      · have kind := field.overwritten_skipped schema attrs skipped
        rw [unskipped_skipped field rest skipped] at holds
        obtain ⟨final, run, length, before, each⟩ := ih place (position + 1) members holds
        refine ⟨final, by rw [writeSteps, if_pos skipped, run], length,
          fun index low => before index (by omega), ?_⟩
        intro index other placed
        cases index with
        | zero =>
            cases placed
            rw [Nat.add_zero, before position (by omega), kind, Option.map_id, id]
        | succ index =>
            rw [Nat.add_comm index 1, ← Nat.add_assoc]
            exact each index other placed
      · have kind := field.overwritten_bound schema attrs skipped
        rw [unskipped_bound field rest skipped] at holds
        have written := write_member_at kept place position members _ (holds 0 field rfl)
        obtain ⟨final, run, length, before, each⟩ :=
          ih (place + 1) (position + 1) (writeMember kept place position members)
            fun index other placed => by
              rw [Nat.add_assoc, Nat.add_comm 1 index]
              exact holds (index + 1) other placed
        refine ⟨final, by rw [writeSteps, if_neg skipped, runSteps, run],
          length.trans (write_member_length kept place position members), ?_, ?_⟩
        · intro index low
          rw [before index (by omega), written, if_neg (by omega)]
        · intro index other placed
          cases index with
          | zero =>
              cases placed
              rw [Nat.add_zero, before position (by omega), written, if_pos rfl, kind]
          | succ index =>
              have apart : position + 1 + index ≠ position := by omega
              rw [Nat.add_comm index 1, ← Nat.add_assoc, each index other placed, written,
                if_neg apart]

theorem merge_failed (schema : Schema) (type : RecordType) (attrs : Dict Value)
    (members : List Datum) (error : BindError)
    (failed : inOrder (type.bound.map (·.taken schema attrs)) = .error error) :
    type.merge schema attrs members = (.error error, members) := by
  rw [merge, mergeSteps, run_reads schema attrs type.plan 0 type.bound type.places_plan, failed]

theorem merge_done (schema : Schema) (type : RecordType) (attrs : Dict Value)
    (members : List Datum) (found : List (Option Datum))
    (read : inOrder (type.bound.map (·.taken schema attrs)) = .ok found) :
    ∃ final, type.merge schema attrs members = (.ok (), final) ∧
      final.length = members.length ∧
      ∀ (position : Nat) (field : RecordField), type.fields[position]? = some field →
        final[position]? = members[position]?.map (field.overwritten schema attrs) := by
  have holds : ∀ (index : Nat) (field : RecordField),
      (unskipped type.fields)[index]? = some field →
      found[0 + index]? = some (field.converted schema attrs) := by
    intro index field placed
    obtain ⟨value, kept, taken⟩ := in_order_ok _ type.bound found read index field placed
    rw [Nat.zero_add, kept, converted_of_taken schema attrs field value taken]
  obtain ⟨final, run, length, _, each⟩ := run_writes schema attrs type.plan
    (entrySources schema attrs) found type.fields 0 0 members holds
  refine ⟨final, ?_, length, fun position field placed => by simpa using each position field placed⟩
  rw [merge, mergeSteps, run_reads schema attrs type.plan 0 type.bound type.places_plan, read]
  exact run

/-- What a new record receives is what a merge writes over the defaults of the types. -/
theorem received_in_order (schema : Schema) (attrs : Dict Value) (fields : List RecordField) :
    inOrder (fields.map (·.received schema attrs)) =
      (inOrder ((unskipped fields).map (·.taken schema attrs))).map fun _ =>
        fields.map fun field => field.overwritten schema attrs (schema.default field.type) := by
  induction fields with
  | nil => rfl
  | cons field rest ih =>
      by_cases skipped : field.settings.skipped = true
      · rw [unskipped_skipped field rest skipped, List.map_cons, inOrder, ih, List.map_cons,
          RecordField.received, if_pos skipped, RecordField.overwritten, if_pos skipped]
        cases inOrder ((unskipped rest).map (·.taken schema attrs)) <;> rfl
      · rw [unskipped_bound field rest skipped, List.map_cons, inOrder, ih, List.map_cons,
          List.map_cons, inOrder, RecordField.received, if_neg skipped, RecordField.overwritten,
          if_neg skipped]
        cases taken : field.taken schema attrs with
        | error error => rfl
        | ok found =>
            rw [converted_of_taken schema attrs field found taken]
            cases inOrder ((unskipped rest).map (·.taken schema attrs)) <;> rfl

theorem bind_taken (schema : Schema) (type : RecordType) (attrs : Dict Value) :
    type.bind schema attrs =
      (inOrder (type.bound.map (·.taken schema attrs))).map fun _ =>
        type.fields.map fun field =>
          field.overwritten schema attrs (schema.default field.type) := by
  rw [bind_received, received_in_order]
  rfl

-- A record that starts as the defaults of the types is a new one after a merge.
theorem merged_defaults (schema : Schema) (type : RecordType) (attrs : Dict Value)
    (final : List Datum) (length : final.length = type.fields.length)
    (each : ∀ (position : Nat) (field : RecordField), type.fields[position]? = some field →
      final[position]? = (type.fields.map fun field => schema.default field.type)[position]?.map
        (field.overwritten schema attrs)) :
    final = type.fields.map fun field =>
      field.overwritten schema attrs (schema.default field.type) := by
  apply List.ext_getElem?
  intro position
  cases placed : type.fields[position]? with
  | some field => simp [each position field placed, placed]
  | none =>
      have beyond := List.getElem?_eq_none_iff.mp placed
      rw [List.getElem?_map, placed, Option.map_none, List.getElem?_eq_none_iff, length]
      exact beyond

/-- Attributes bound onto the default record leave the record that they are bound to, or fail for
the same reason and leave the default record. -/
theorem bind_agrees_with_merge (schema : Schema) (type : RecordType) (attrs : Dict Value)
    (plain : type.defaults = type.fields.map fun field => schema.default field.type) :
    (∃ error, type.bind schema attrs = .error error ∧
      type.unmarshalInto schema (some attrs) (some type.defaults) =
        (.error error, some type.defaults)) ∨
    ∃ members, type.bind schema attrs = .ok members ∧
      type.unmarshalInto schema (some attrs) (some type.defaults) = (.ok (), some members) := by
  rw [bind_taken]
  cases read : inOrder (type.bound.map (·.taken schema attrs)) with
  | error error =>
      have failed := merge_failed schema type attrs type.defaults error read
      exact Or.inl ⟨error, rfl, by simp only [unmarshalInto, Option.getD_some, failed]⟩
  | ok found =>
      obtain ⟨final, done, length, each⟩ := merge_done schema type attrs type.defaults found read
      rw [plain] at length each
      have same := merged_defaults schema type attrs final (by simpa using length) each
      refine Or.inr ⟨final, congrArg Except.ok same.symm, ?_⟩
      simp only [unmarshalInto, Option.getD_some, done]

/-- A picture whose size is hidden, so that the place of its caption in the plan is not its position
in the record. -/
def samplePicture : RecordType :=
  ⟨"Picture", "Picture", [.named "src" .string, .hidden "size" "size" (.int .u32),
    ((RecordField.named "alt" .string).withSecondary "caption").optional,
    (RecordField.named "width" (.option (.int .u32))).optional],
    [.atom (.string ""), .atom (.int 0), .atom (.string ""), .absent]⟩

theorem bind_agrees_with_merge_picture :
    (samplePicture.defaults = samplePicture.fields.map fun field =>
        Schema.default ⟨"", [samplePicture]⟩ field.type) ∧
      samplePicture.unmarshalInto ⟨"", [samplePicture]⟩
          (some [("caption", .string "a cat"), ("size", .int 9), ("src", .int 7)])
          (some samplePicture.defaults) =
        (.ok (), some [.atom (.string "7"), .atom (.int 0), .atom (.string "a cat"), .absent]) := by
  have plain : samplePicture.defaults = samplePicture.fields.map fun field =>
      Schema.default ⟨"", [samplePicture]⟩ field.type := rfl
  have bound : samplePicture.bind ⟨"", [samplePicture]⟩
      [("caption", .string "a cat"), ("size", .int 9), ("src", .int 7)] =
      .ok [.atom (.string "7"), .atom (.int 0), .atom (.string "a cat"), .absent] := by rfl
  refine ⟨plain, ?_⟩
  rcases bind_agrees_with_merge ⟨"", [samplePicture]⟩ samplePicture
      [("caption", .string "a cat"), ("size", .int 9), ("src", .int 7)] plain with
    ⟨error, failed, _⟩ | ⟨members, given, left⟩
  · rw [bound] at failed
    cases failed
  · rw [bound] at given
    cases given
    exact left

end RecordType

end MarkupTemplate
