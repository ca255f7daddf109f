import Mathlib.Data.List.Induction
import MarkupTemplate.Registry.Outline

/-!
Registries through a history of calls. A call asks a constructor for one tag, an alias the one that
its target has at that time; a call that is refused leaves the registry as it was. Main statement:
the first call for a tag that succeeds settles its constructor for good, so that later calls for the
tag are refused, and a tag is known exactly where there was such a call.
-/

namespace MarkupTemplate

namespace Registry

/-- A request to register a tag, or to let one tag build what another one does. -/
inductive Call (α : Type) where
  | register (tag : String) (constructor : Constructor α)
  | share (alternative target : String)

variable {α : Type}

/-- A registry of no tags, with or without a fallback. -/
def opened : Option (Fallback α) → Registry α
  | none => empty
  | some fallback => withFallback fallback empty

/-- The constructor that is registered for a tag. -/
def constructorOf (registry : Registry α) (tag : String) : Option (Constructor α) :=
  Dict.find tag registry.constructors

/-- The tag that a call is for. -/
def Call.tag : Call α → String
  | .register tag _ => tag
  | .share alternative _ => alternative

def perform (registry : Registry α) : Call α → Except RegistryError Unit × Registry α
  | .register tag constructor => registry.register tag constructor
  | .share alternative target => registry.registerAlias alternative target

/-- The constructor that a call would give to its tag. -/
def offered (registry : Registry α) : Call α → Option (Constructor α)
  | .register _ constructor => some constructor
  | .share _ target => registry.constructorOf target

def Succeeds (registry : Registry α) (call : Call α) : Prop :=
  (registry.perform call).1 = .ok ()

/-- Why a call is refused: its tag is taken, or the target of an alias is not there. Of both, the
target is reported. -/
def Refuses (registry : Registry α) : Call α → RegistryError → Prop
  | .register tag _, error => registry.contains tag = true ∧ error = .alreadyRegistered tag
  | .share alternative target, error =>
      (registry.contains target = false ∧ error = .unknownTag target) ∨
        registry.contains target = true ∧ registry.contains alternative = true ∧
          error = .alreadyRegistered alternative

/-- The registry that a call leaves. -/
def afterCall (registry : Registry α) (call : Call α) : Registry α := (registry.perform call).2

/-- The registry that calls leave, one after another. -/
def after (registry : Registry α) (calls : List (Call α)) : Registry α :=
  calls.foldl afterCall registry

/-- One of the calls is for the tag, and succeeds at its place. -/
def Granted (registry : Registry α) (calls : List (Call α)) (tag : String) : Prop :=
  ∃ before call later, calls = before ++ call :: later ∧ call.tag = tag ∧
    (registry.after before).Succeeds call

/-- The first call for the tag that succeeds gives it the constructor. -/
def GrantedFirst (registry : Registry α) (calls : List (Call α)) (tag : String)
    (constructor : Constructor α) : Prop :=
  ∃ before call later, calls = before ++ call :: later ∧ call.tag = tag ∧
    ¬registry.Granted before tag ∧ (registry.after before).Succeeds call ∧
    (registry.after before).offered call = some constructor

/-! One call. -/

theorem contains_iff (registry : Registry α) (tag : String) :
    registry.contains tag = true ↔ ∃ constructor, registry.constructorOf tag = some constructor :=
  Option.isSome_iff_exists

theorem contains_false_iff (registry : Registry α) (tag : String) :
    registry.contains tag = false ↔ registry.constructorOf tag = none := by
  rw [contains, constructorOf, Option.isSome_eq_false_iff, Option.isNone_iff_eq_none]

theorem register_error_iff (registry : Registry α) (tag : String) (constructor : Constructor α)
    (error : RegistryError) : (registry.register tag constructor).1 = .error error ↔
      registry.contains tag = true ∧ error = .alreadyRegistered tag := by
  rw [register]
  by_cases known : registry.contains tag = true
  · simp [known, eq_comm]
  · simp [known]

theorem perform_error_iff (registry : Registry α) (call : Call α) (error : RegistryError) :
    (registry.perform call).1 = .error error ↔ registry.Refuses call error := by
  cases call with
  | register tag constructor => exact registry.register_error_iff tag constructor error
  | share alternative target =>
      rw [perform, registerAlias, Refuses]
      cases known : Dict.find target registry.constructors with
      | none =>
          have absent := (registry.contains_false_iff target).mpr known
          constructor
          · rintro ⟨⟩
            exact .inl ⟨absent, rfl⟩
          · rintro (⟨_, rfl⟩ | ⟨present, _⟩)
            · rfl
            · rw [absent] at present
              cases present
      | some constructor =>
          have present := (registry.contains_iff target).mpr ⟨constructor, known⟩
          simp [present, register_error_iff]

theorem register_refused (registry : Registry α) (tag : String) (constructor : Constructor α)
    (error : RegistryError) (refused : (registry.register tag constructor).1 = .error error) :
    (registry.register tag constructor).2 = registry := by
  have known := ((registry.register_error_iff tag constructor error).mp refused).1
  rw [register, if_pos known]

/-- A call that is refused leaves the registry as it was. -/
theorem perform_refused (registry : Registry α) (call : Call α) (error : RegistryError)
    (refused : (registry.perform call).1 = .error error) :
    (registry.perform call).2 = registry := by
  cases call with
  | register tag constructor => exact registry.register_refused tag constructor error refused
  | share alternative target =>
      rw [perform, registerAlias] at refused ⊢
      cases known : Dict.find target registry.constructors with
      | none => rfl
      | some constructor =>
          rw [known] at refused
          exact registry.register_refused alternative constructor error refused

theorem register_ok (registry : Registry α) (tag : String) (constructor : Constructor α)
    (done : (registry.register tag constructor).1 = .ok ()) :
    registry.constructorOf tag = none ∧
      ∀ other, (registry.register tag constructor).2.constructorOf other =
        if tag = other then some constructor else registry.constructorOf other := by
  unfold register at done ⊢
  split at done
  case isTrue => cases done
  case isFalse unknown =>
    rw [if_neg unknown]
    exact ⟨(registry.contains_false_iff tag).mp (Bool.eq_false_iff.mpr unknown),
      fun other => Dict.find_insert tag other constructor registry.constructors⟩

theorem after_call_refused (registry : Registry α) (call : Call α)
    (refused : ¬registry.Succeeds call) : registry.afterCall call = registry := by
  cases outcome : (registry.perform call).1 with
  | ok => exact absurd outcome refused
  | error error => exact registry.perform_refused call error outcome

/-- A call that succeeds gives its tag, which had none, the offered constructor, and changes no
other tag. -/
theorem after_call_granted (registry : Registry α) (call : Call α)
    (succeeds : registry.Succeeds call) :
    ∃ constructor, registry.offered call = some constructor ∧
      registry.constructorOf call.tag = none ∧
      ∀ tag, (registry.afterCall call).constructorOf tag =
        if call.tag = tag then some constructor else registry.constructorOf tag := by
  cases call with
  | register tag constructor =>
      exact ⟨constructor, rfl, registry.register_ok tag constructor succeeds⟩
  | share alternative target =>
      rw [Succeeds, perform, registerAlias] at succeeds
      rw [afterCall, perform, registerAlias]
      cases known : Dict.find target registry.constructors with
      | none =>
          rw [known] at succeeds
          cases succeeds
      | some constructor =>
          rw [known] at succeeds
          exact ⟨constructor, known, registry.register_ok alternative constructor succeeds⟩

theorem after_call_keeps (registry : Registry α) (call : Call α) (tag : String)
    (constructor : Constructor α) (known : registry.constructorOf tag = some constructor) :
    (registry.afterCall call).constructorOf tag = some constructor := by
  by_cases succeeds : registry.Succeeds call
  · obtain ⟨_, _, free, each⟩ := registry.after_call_granted call succeeds
    have other : call.tag ≠ tag := by
      rintro rfl
      rw [free] at known
      cases known
    rw [each, if_neg other, known]
  · rw [registry.after_call_refused call succeeds, known]

/-! Calls one after another. -/

theorem after_append (registry : Registry α) (calls more : List (Call α)) :
    registry.after (calls ++ more) = (registry.after calls).after more := List.foldl_append

theorem after_keeps (registry : Registry α) (calls : List (Call α)) (tag : String)
    (constructor : Constructor α) (known : registry.constructorOf tag = some constructor) :
    (registry.after calls).constructorOf tag = some constructor := by
  induction calls generalizing registry with
  | nil => exact known
  | cons call rest ih =>
      exact ih (registry.afterCall call) (registry.after_call_keeps call tag constructor known)

theorem granted_stays (registry : Registry α) (before later : List (Call α)) (call : Call α)
    (succeeds : (registry.after before).Succeeds call) :
    ∃ constructor, (registry.after before).offered call = some constructor ∧
      (registry.after (before ++ call :: later)).constructorOf call.tag = some constructor := by
  obtain ⟨constructor, offer, _, each⟩ := (registry.after before).after_call_granted call succeeds
  refine ⟨constructor, offer, ?_⟩
  rw [after_append]
  exact after_keeps _ later call.tag constructor ((each call.tag).trans (if_pos rfl))

theorem granted_known (registry : Registry α) (calls : List (Call α)) (tag : String)
    (granted : registry.Granted calls tag) : (registry.after calls).contains tag = true := by
  obtain ⟨before, call, later, rfl, rfl, succeeds⟩ := granted
  obtain ⟨constructor, _, known⟩ := registry.granted_stays before later call succeeds
  exact (contains_iff _ _).mpr ⟨constructor, known⟩

/-- A call that succeeds is the first one for its tag that does. -/
theorem success_first (registry : Registry α) (before : List (Call α)) (call : Call α)
    (succeeds : (registry.after before).Succeeds call) : ¬registry.Granted before call.tag := by
  intro granted
  obtain ⟨constructor, known⟩ := (contains_iff _ _).mp (registry.granted_known before _ granted)
  obtain ⟨_, _, free, _⟩ := (registry.after before).after_call_granted call succeeds
  rw [known] at free
  cases free

/-- A constructor that is there after the calls was there before them, or one of them gave it. -/
theorem known_origin (registry : Registry α) (calls : List (Call α)) (tag : String)
    (constructor : Constructor α)
    (known : (registry.after calls).constructorOf tag = some constructor) :
    registry.constructorOf tag = some constructor ∨
      registry.GrantedFirst calls tag constructor := by
  induction calls using List.reverseRecOn with
  | nil => exact .inl known
  | append_singleton calls call ih =>
      rw [after_append] at known
      by_cases succeeds : (registry.after calls).Succeeds call
      · obtain ⟨offer, same, _, each⟩ := (registry.after calls).after_call_granted call succeeds
        have now := (each tag).symm.trans known
        by_cases own : call.tag = tag
        · rw [if_pos own] at now
          refine .inr ⟨calls, call, [], rfl, own, ?_, succeeds, same.trans now⟩
          exact own ▸ registry.success_first calls call succeeds
        · rw [if_neg own] at now
          refine (ih now).imp_right ?_
          rintro ⟨before, first, later, rfl, more⟩
          exact ⟨before, first, later ++ [call], by simp, more⟩
      · rw [after, List.foldl_cons, List.foldl_nil,
          after_call_refused _ call succeeds] at known
        refine (ih known).imp_right ?_
        rintro ⟨before, first, later, rfl, more⟩
        exact ⟨before, first, later ++ [call], by simp, more⟩

theorem granted_first_known (registry : Registry α) (calls : List (Call α)) (tag : String)
    (constructor : Constructor α) (granted : registry.GrantedFirst calls tag constructor) :
    (registry.after calls).constructorOf tag = some constructor := by
  obtain ⟨before, call, later, rfl, rfl, _, succeeds, offer⟩ := granted
  obtain ⟨other, same, known⟩ := registry.granted_stays before later call succeeds
  rw [known, ← same, offer]

theorem opened_empty (fallback : Option (Fallback α)) (tag : String) :
    (opened fallback).constructorOf tag = none := by
  cases fallback <;> rfl

theorem construct_known (registry : Registry α) (tag : String) (constructor : Constructor α)
    (known : registry.constructorOf tag = some constructor) (attrs : Dict Value) :
    registry.construct tag attrs = (constructor attrs).mapError (.bind tag) := by
  rw [constructorOf] at known
  rw [construct, known]

/-- Through calls on a new registry its table only grows. A tag is there once a call for it has
succeeded. The first such call settles for good which constructor builds the nodes of the tag. A
call is refused where its tag is taken or its target is not there, and then nothing changes. -/
theorem table_only_grows (fallback : Option (Fallback α)) (calls : List (Call α)) :
    (∀ tag, ((opened fallback).after calls).contains tag = true ↔
      (opened fallback).Granted calls tag) ∧
    (∀ tag, (opened fallback).Granted calls tag →
      ∃ constructor, (opened fallback).GrantedFirst calls tag constructor) ∧
    (∀ tag constructor, (opened fallback).GrantedFirst calls tag constructor →
      ∀ more attrs, ((opened fallback).after (calls ++ more)).construct tag attrs =
        (constructor attrs).mapError (.bind tag)) ∧
    (∀ call error, (((opened fallback).after calls).perform call).1 = .error error ↔
      ((opened fallback).after calls).Refuses call error) ∧
    ∀ call error, (((opened fallback).after calls).perform call).1 = .error error →
      (opened fallback).after (calls ++ [call]) = (opened fallback).after calls := by
  have origin (tag : String) (known : ((opened fallback).after calls).contains tag = true) :
      ∃ constructor, (opened fallback).GrantedFirst calls tag constructor := by
    obtain ⟨constructor, known⟩ := (contains_iff _ tag).mp known
    rcases known_origin _ calls tag constructor known with before | granted
    · rw [opened_empty] at before
      cases before
    · exact ⟨constructor, granted⟩
  refine ⟨fun tag => ⟨fun known => ?_, granted_known _ calls tag⟩,
    fun tag granted => origin tag (granted_known _ calls tag granted),
    fun tag constructor granted more attrs => ?_, perform_error_iff _, fun call error refused => ?_⟩
  · obtain ⟨_, before, call, later, split, own, _, succeeds, _⟩ := origin tag known
    exact ⟨before, call, later, split, own, succeeds⟩
  · have known := granted_first_known _ calls tag constructor granted
    rw [after_append]
    exact construct_known _ tag constructor (after_keeps _ more tag constructor known) attrs
  · rw [after_append]
    exact perform_refused _ call error refused

/-- The first call has no target yet, and the fourth comes too late. -/
def emphasis : List (Call Outline) :=
  [.share "strong" "b", .register "b" Outline.ofGroup, .share "strong" "b",
    .register "b" Outline.ofKeys, .share "em" "strong"]

theorem table_only_grows_emphasis :
    (opened (some Outline.extension)).Granted emphasis "em" ∧
      (opened (some Outline.extension)).GrantedFirst emphasis "b" Outline.ofGroup ∧
      (∀ attrs, ((opened (some Outline.extension)).after
          (emphasis ++ [.register "b" Outline.ofKeys])).construct "b" attrs =
        (Outline.ofGroup attrs).mapError (.bind "b")) ∧
      (((opened (some Outline.extension)).after emphasis).perform (.share "strong" "i")).1 =
        .error (.unknownTag "i") ∧
      (opened (some Outline.extension)).after (emphasis ++ [.share "strong" "i"]) =
        (opened (some Outline.extension)).after emphasis := by
  obtain ⟨known, _, settled, refused, unchanged⟩ :=
    table_only_grows (some Outline.extension) emphasis
  have first : (opened (some Outline.extension)).GrantedFirst emphasis "b" Outline.ofGroup := by
    refine ⟨[.share "strong" "b"], .register "b" Outline.ofGroup, _, rfl, rfl, ?_, rfl, rfl⟩
    rintro ⟨before, call, later, split, own, _⟩
    have member : call ∈ [.share "strong" "b"] := split ▸ by simp
    rw [List.mem_singleton.mp member] at own
    exact absurd own (by decide)
  have absent := (refused (.share "strong" "i") (.unknownTag "i")).mpr (.inl ⟨rfl, rfl⟩)
  exact ⟨(known "em").mp rfl, first, settled "b" Outline.ofGroup first _, absent,
    unchanged _ _ absent⟩

end Registry

end MarkupTemplate
