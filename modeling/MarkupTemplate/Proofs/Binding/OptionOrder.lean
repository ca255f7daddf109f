import MarkupTemplate.Proofs.Binding.Options

/-!
The options of a field in another order. What the options ask for shows in their order only where a
key is assigned twice. Main statement: where all options of a field are well formed and neither key
is given by two of them, every arrangement of them in groups is accepted and leads to the same
settings.
-/

namespace MarkupTemplate

/-- The options that a vocabulary has, as they may be written. The shared one passes over what it
does not know, and so does a renaming within its parentheses. -/
inductive FieldOption.WellFormed : Vocabulary → FieldOption → Prop where
  | name (content : String) : WellFormed .own (.assigned "name" (.text content))
  | omitempty : WellFormed .own (.bare "omitempty")
  | skip : WellFormed .own (.bare "skip")
  | rename (content : String) : WellFormed .shared (.assigned "rename" (.text content))
  | renames (options : List FieldOption) : options ≠ [] →
      (∀ option ∈ options, option.name = "deserialize" → ∃ content, option.text = .ok content) →
      WellFormed .shared (.nested "rename" options)
  | other (option : FieldOption) : option.name ≠ "rename" → WellFormed .shared option
  | foreign (option : FieldOption) : WellFormed .foreign option

namespace FieldDeclaration

/-- Every option that counts is well formed. -/
def WellFormed (declared : FieldDeclaration) : Prop :=
  ∀ group ∈ declared.groups, ∀ option ∈ group.options, option.WellFormed group.vocabulary

/-- Neither the explicit name nor the shared key is given by more than one option. -/
structure KeysOnce (declared : FieldDeclaration) : Prop where
  own : (declared.optionsIn .own).countP (·.name = "name") ≤ 1
  shared : (declared.optionsIn .shared).countP (·.name = "rename") ≤ 1

/-- The same field with the same options, each vocabulary in any order and in any groups. -/
structure Rearranged (left right : FieldDeclaration) : Prop where
  name : left.name = right.name
  isPublic : left.isPublic = right.isPublic
  type : left.type = right.type
  own : (left.optionsIn .own).Perm (right.optionsIn .own)
  shared : (left.optionsIn .shared).Perm (right.optionsIn .shared)

end FieldDeclaration

/-! An option is read exactly where it is well formed, whatever was chosen before it. -/

namespace Chosen

theorem own_accepted_iff (option : FieldOption) (chosen : Chosen) :
    (∃ next, readOwn option chosen = .ok next) ↔ option.WellFormed .own := by
  constructor
  · rintro ⟨next, read⟩
    unfold readOwn at read
    split at read
    case isTrue named =>
      obtain ⟨content, text, _⟩ := bind_ok read
      match option, named, text with
      | .assigned _ (.text _), rfl, _ => exact .name _
    case isFalse =>
      split at read
      case isTrue omits =>
        obtain ⟨_, ended, _⟩ := bind_ok read
        match option, omits, ended with
        | .bare _, rfl, _ => exact .omitempty
      case isFalse =>
        split at read
        case isTrue skips =>
          obtain ⟨_, ended, _⟩ := bind_ok read
          match option, skips, ended with
          | .bare _, rfl, _ => exact .skip
        case isFalse => cases read
  · rintro (content | _ | _) <;> exact ⟨_, rfl⟩

theorem renames_accepted_iff (options : List FieldOption) (chosen : Chosen) :
    (∃ next, readRenames options chosen = .ok next) ↔
      ∀ option ∈ options, option.name = "deserialize" → ∃ content, option.text = .ok content := by
  induction options generalizing chosen with
  | nil => exact iff_of_true ⟨chosen, rfl⟩ nofun
  | cons option rest ih =>
      rw [readRenames, List.forall_mem_cons]
      by_cases named : option.name = "deserialize"
      · rw [if_pos named, bind_accepted_iff]
        simp only [ih, named, true_imp_iff, exists_and_right]
      · rw [if_neg named, ih]
        simp only [named, false_imp_iff, true_and]

theorem shared_accepted_iff (last : Bool) (option : FieldOption) (chosen : Chosen) :
    (∃ next, readShared last option chosen = .ok next) ↔ option.WellFormed .shared := by
  by_cases renamed : option.name = "rename"
  · rw [readShared, if_pos renamed]
    constructor
    · rintro ⟨next, read⟩
      match option, renamed, read with
      | .assigned _ (.text content), rfl, _ => exact .rename content
      | .nested _ (first :: rest), rfl, read =>
          exact .renames _ (List.cons_ne_nil first rest)
            ((renames_accepted_iff _ chosen).mp ⟨next, read⟩)
    · intro wellFormed
      cases wellFormed with
      | rename content => exact ⟨_, rfl⟩
      | renames options filled texts =>
          obtain ⟨first, rest, rfl⟩ := List.exists_cons_of_ne_nil filled
          exact (renames_accepted_iff _ chosen).mpr texts
      | other _ plain => exact absurd renamed plain
  · refine iff_of_true ?_ (.other option renamed)
    rw [readShared, if_neg renamed]
    split
    · exact ⟨_, rfl⟩
    · split <;> exact ⟨_, rfl⟩

theorem options_accepted_iff (vocabulary : Vocabulary) (options : List FieldOption)
    (chosen : Chosen) : (∃ next, readOptions vocabulary options chosen = .ok next) ↔
      ∀ option ∈ options, option.WellFormed vocabulary := by
  induction options generalizing chosen with
  | nil => exact iff_of_true ⟨chosen, rfl⟩ nofun
  | cons option rest ih =>
      rw [List.forall_mem_cons]
      cases vocabulary with
      | own =>
          rw [readOptions, bind_accepted_iff]
          simp only [ih, exists_and_right, own_accepted_iff]
      | shared =>
          rw [readOptions, bind_accepted_iff]
          simp only [ih, exists_and_right, shared_accepted_iff]
      | foreign => exact (ih chosen).trans (and_iff_right (.foreign option)).symm

theorem groups_accepted_iff (groups : List OptionGroup) (chosen : Chosen) :
    (∃ next, readGroups groups chosen = .ok next) ↔
      ∀ group ∈ groups, ∀ option ∈ group.options, option.WellFormed group.vocabulary := by
  induction groups generalizing chosen with
  | nil => exact iff_of_true ⟨chosen, rfl⟩ nofun
  | cons group rest ih =>
      rw [readGroups, bind_accepted_iff, List.forall_mem_cons]
      simp only [ih, exists_and_right, options_accepted_iff]

end Chosen

namespace FieldDeclaration

theorem mem_options_in (vocabulary : Vocabulary) (declared : FieldDeclaration)
    (option : FieldOption) : option ∈ declared.optionsIn vocabulary ↔
      ∃ group ∈ declared.groups, group.vocabulary = vocabulary ∧ option ∈ group.options := by
  simp only [optionsIn, Chosen.within, List.mem_flatMap, List.mem_ite_nil_right]

theorem well_formed_iff (declared : FieldDeclaration) : declared.WellFormed ↔
    (∀ option ∈ declared.optionsIn .own, option.WellFormed .own) ∧
      ∀ option ∈ declared.optionsIn .shared, option.WellFormed .shared := by
  simp only [mem_options_in]
  constructor
  · intro all
    refine ⟨?_, ?_⟩ <;>
      · rintro option ⟨group, member, same, inside⟩
        exact same ▸ all group member option inside
  · rintro ⟨own, shared⟩ group member option inside
    cases same : group.vocabulary with
    | own => exact own option ⟨group, member, same, inside⟩
    | shared => exact shared option ⟨group, member, same, inside⟩
    | foreign => exact .foreign option

variable {left right : FieldDeclaration}

theorem Rearranged.well_formed (rearranged : Rearranged left right) (all : left.WellFormed) :
    right.WellFormed := by
  obtain ⟨own, shared⟩ := (well_formed_iff left).mp all
  refine (well_formed_iff right).mpr ⟨fun option member => ?_, fun option member => ?_⟩
  · exact own option (rearranged.own.mem_iff.mpr member)
  · exact shared option (rearranged.shared.mem_iff.mpr member)

/-- What is read off the options of one name only does not depend on the order, if there is at most
one of them. -/
theorem once_in_any_order {β : Type} (read : FieldOption → List β) (name : String)
    (silent : ∀ option : FieldOption, option.name ≠ name → read option = [])
    (options others : List FieldOption) (perm : options.Perm others)
    (once : options.countP (·.name = name) ≤ 1) :
    options.flatMap read = others.flatMap read := by
  have heard (options : List FieldOption) :
      options.flatMap read = (options.filter (·.name = name)).flatMap read := by
    induction options with
    | nil => rfl
    | cons option rest ih =>
        by_cases named : option.name = name
        · simp [named, ih]
        · simp [named, silent option named, ih]
  have filtered := perm.filter (·.name = name)
  rw [List.countP_eq_length_filter] at once
  rw [heard options, heard others]
  cases found : options.filter (·.name = name) with
  | nil =>
      rw [found] at filtered
      rw [List.nil_perm.mp filtered]
  | cons option rest =>
      rw [found] at filtered once
      cases rest with
      | nil => rw [List.singleton_perm.mp filtered]
      | cons second rest => simp at once

theorem Rearranged.explicit_name (rearranged : Rearranged left right) (once : left.KeysOnce) :
    left.explicitName = right.explicitName :=
  congrArg List.getLast? (once_in_any_order (FieldOption.assigns "name") "name"
    (fun _ other => if_neg other) _ _ rearranged.own once.own)

theorem Rearranged.shared_name (rearranged : Rearranged left right) (once : left.KeysOnce) :
    left.sharedName = right.sharedName :=
  congrArg List.getLast? (once_in_any_order FieldOption.sharedKeys "rename"
    (fun _ other => if_neg other) _ _ rearranged.shared once.shared)

theorem Rearranged.asks_own (rearranged : Rearranged left right) (name : String) :
    left.Asks .own name ↔ right.Asks .own name :=
  exists_congr fun _ => and_congr_left fun _ => rearranged.own.mem_iff

theorem Rearranged.asks_shared (rearranged : Rearranged left right) (name : String) :
    left.Asks .shared name ↔ right.Asks .shared name :=
  exists_congr fun _ => and_congr_left fun _ => rearranged.shared.mem_iff

end FieldDeclaration

open FieldDeclaration

variable {left right : FieldDeclaration}

theorem Chosen.Asked.rearranged {chosen : Chosen} (asked : chosen.Asked right)
    (rearranged : Rearranged left right) (once : left.KeysOnce) : chosen.Asked left where
  primary := asked.primary.trans (rearranged.explicit_name once).symm
  secondary := asked.secondary.trans (rearranged.shared_name once).symm
  optional := asked.optional.trans
    (or_congr (rearranged.asks_own "omitempty") (rearranged.asks_shared "default")).symm
  skipped := asked.skipped.trans (rearranged.asks_own "skip").symm
  dropsSecondary := asked.dropsSecondary.trans
    (or_congr (rearranged.asks_shared "skip") (rearranged.asks_shared "skip_deserializing")).symm

theorem Chosen.Asked.unique {declared : FieldDeclaration} {first second : Chosen}
    (one : first.Asked declared) (two : second.Asked declared) : first = second := by
  have primary := one.primary.trans two.primary.symm
  have secondary := one.secondary.trans two.secondary.symm
  have optional := Bool.eq_iff_iff.mpr (one.optional.trans two.optional.symm)
  have skipped := Bool.eq_iff_iff.mpr (one.skipped.trans two.skipped.symm)
  have drops := Bool.eq_iff_iff.mpr (one.dropsSecondary.trans two.dropsSecondary.symm)
  cases first
  cases second
  cases primary
  cases secondary
  cases optional
  cases skipped
  cases drops
  rfl

/-- What the groups of one arrangement choose, those of any other choose too. -/
theorem groups_in_any_order (rearranged : Rearranged left right) (all : left.WellFormed)
    (once : left.KeysOnce) : ∃ chosen, Chosen.readGroups left.groups .none = .ok chosen ∧
      Chosen.readGroups right.groups .none = .ok chosen := by
  obtain ⟨first, read⟩ := (Chosen.groups_accepted_iff left.groups .none).mpr all
  obtain ⟨second, readToo⟩ :=
    (Chosen.groups_accepted_iff right.groups .none).mpr (rearranged.well_formed all)
  have asked := (groups_asked right second readToo).rearranged rearranged once
  exact ⟨first, read, (groups_asked left first read).unique asked ▸ readToo⟩

theorem settings_in_any_order (rearranged : Rearranged left right) (all : left.WellFormed)
    (once : left.KeysOnce) (position : Nat) :
    ∃ settings, left.settings position = .ok settings ∧
      right.settings position = .ok settings := by
  obtain ⟨chosen, read, readToo⟩ := groups_in_any_order rearranged all once
  rw [FieldDeclaration.settings, FieldDeclaration.settings, read, readToo, ← rearranged.name,
    ← rearranged.isPublic, ← rearranged.type]
  cases left.name <;> exact ⟨_, rfl, rfl⟩

theorem settings_from_replaced (before after : List FieldDeclaration) (position : Nat)
    (same : ∀ position, left.settings position = right.settings position) :
    settingsFrom position (before ++ left :: after) =
      settingsFrom position (before ++ right :: after) := by
  induction before generalizing position with
  | nil => rw [List.nil_append, List.nil_append, settingsFrom, settingsFrom, same]
  | cons declared before ih =>
      rw [List.cons_append, List.cons_append, settingsFrom, settingsFrom, ih]

/-- In any arrangement of its options a field has the same settings, in whatever declaration it
stands. An option that takes the shared key back does so from before the key as from behind it. -/
theorem options_in_any_order (left right : FieldDeclaration) (rearranged : Rearranged left right)
    (all : left.WellFormed) (once : left.KeysOnce) :
    (∀ position, ∃ settings, left.settings position = .ok settings ∧
      right.settings position = .ok settings ∧
      (left.DropsShared → settings.secondary = none)) ∧
    ∀ kind before after, Declaration.settings ⟨kind, before ++ left :: after⟩ =
      Declaration.settings ⟨kind, before ++ right :: after⟩ := by
  have same := settings_in_any_order rearranged all once
  refine ⟨fun position => ?_, fun kind before after => ?_⟩
  · obtain ⟨settings, accepted, acceptedToo⟩ := same position
    refine ⟨settings, accepted, acceptedToo, fun drops => ?_⟩
    exact (settings_declares position left settings accepted).secondary.trans (if_pos drops)
  · have each (position : Nat) : left.settings position = right.settings position := by
      obtain ⟨settings, accepted, acceptedToo⟩ := same position
      rw [accepted, acceptedToo]
    rw [Declaration.settings, Declaration.settings, settings_from_replaced before after 0 each]

/-- A field with a shared key that an option behind it takes back. -/
def keyFirst : FieldDeclaration where
  name := some "r#type"
  isPublic := true
  type := "String"
  groups :=
    [⟨.shared, [.assigned "rename" (.text "kind"), .bare "skip_deserializing"]⟩,
      ⟨.own, [.assigned "name" (.text "variant"), .bare "omitempty"]⟩]

/-- The same field with every option in a group of its own and the shared key last. -/
def keyLast : FieldDeclaration where
  name := some "r#type"
  isPublic := true
  type := "String"
  groups :=
    [⟨.own, [.bare "omitempty"]⟩, ⟨.shared, [.bare "skip_deserializing"]⟩, ⟨.foreign, []⟩,
      ⟨.own, [.assigned "name" (.text "variant")]⟩, ⟨.shared, [.assigned "rename" (.text "kind")]⟩]

theorem options_in_any_order_key_last :
    Rearranged keyFirst keyLast ∧ keyFirst.WellFormed ∧ keyFirst.KeysOnce ∧
      keyFirst.DropsShared ∧
      keyFirst.settings 0 = .ok ⟨"r#type", "type", "String", some "variant", none, true, false⟩ ∧
      keyLast.settings 0 = keyFirst.settings 0 := by
  have rearranged : Rearranged keyFirst keyLast := ⟨rfl, rfl, rfl, .swap _ _ _, .swap _ _ _⟩
  have shared : ∀ option ∈ [.assigned "rename" (.text "kind"), .bare "skip_deserializing"],
      FieldOption.WellFormed .shared option :=
    List.forall_mem_cons.mpr ⟨.rename "kind", List.forall_mem_singleton.mpr (.other _ (by decide))⟩
  have own : ∀ option ∈ [.assigned "name" (.text "variant"), .bare "omitempty"],
      FieldOption.WellFormed .own option :=
    List.forall_mem_cons.mpr ⟨.name "variant", List.forall_mem_singleton.mpr .omitempty⟩
  have all : keyFirst.WellFormed :=
    List.forall_mem_cons.mpr ⟨shared, List.forall_mem_singleton.mpr own⟩
  have once : keyFirst.KeysOnce := ⟨by decide, by decide⟩
  obtain ⟨settings, accepted, acceptedToo, _⟩ :=
    (options_in_any_order keyFirst keyLast rearranged all once).1 0
  exact ⟨rearranged, all, once, by decide, by rfl, acceptedToo.trans accepted.symm⟩

end MarkupTemplate
