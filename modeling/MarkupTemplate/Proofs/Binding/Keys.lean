import MarkupTemplate.Binding.Record
import Mathlib.Data.List.Induction

/-!
The keys of a field. A plan keeps every key once, in the order in which it first
comes and without the empty one; looking through the plan finds what looking through all the keys
would find.
-/

namespace MarkupTemplate

/-- The keys under which a field is looked up, the most explicit first. -/
def Settings.candidates (settings : Settings) : List String :=
  (settings.primary.toList ++ settings.secondary.toList ++
    [settings.name, uncapitalize settings.name, camelCase settings.name]).filter (· ≠ "")

theorem foldl_add_key (keys : List String) :
    keys.foldl addKey [] = (keys.filter (· ≠ "")).eraseDups := by
  induction keys using List.reverseRecOn with
  | nil => rfl
  | append_singleton keys key ih =>
      rw [List.foldl_append, List.foldl_cons, List.foldl_nil, ih, List.filter_append,
        List.eraseDups_append, addKey]
      by_cases empty : key = ""
      · simp [empty, List.removeAll]
      · by_cases known : key ∈ keys
        · simp [empty, known, List.removeAll]
        · simp [empty, known, List.removeAll, List.eraseDups_cons]

/-- The keys in a plan are the candidates without repetition. -/
theorem spec_keys (settings : Settings) : settings.spec.keys = settings.candidates.eraseDups :=
  foldl_add_key _

theorem find_some_erase_dups {α : Type} (lookUp : String → Option α) (keys : List String) :
    keys.eraseDups.findSome? lookUp = keys.findSome? lookUp := by
  induction keys using List.reverseRecOn with
  | nil => rfl
  | append_singleton keys key ih =>
      rw [List.eraseDups_append, List.findSome?_append, List.findSome?_append, ih]
      by_cases known : key ∈ keys
      · have nothing : (keys.findSome? lookUp).or (lookUp key) = keys.findSome? lookUp := by
          cases found : keys.findSome? lookUp with
          | some value => rfl
          | none => exact List.findSome?_eq_none_iff.mp found key known
        simp [List.removeAll, known, nothing]
      · simp [List.removeAll, known, List.eraseDups_cons]

theorem first_present_find_some {α : Type} (entries : Dict α) (keys : List String) :
    firstPresent entries keys = keys.findSome? fun key => Dict.find key entries := by
  induction keys with
  | nil => rfl
  | cons key rest ih =>
      rw [firstPresent, List.findSome?_cons, ih]
      cases Dict.find key entries <;> rfl

theorem first_present_spec {α : Type} (entries : Dict α) (settings : Settings) :
    firstPresent entries settings.spec.keys =
      settings.candidates.findSome? fun key => Dict.find key entries := by
  rw [first_present_find_some, spec_keys, find_some_erase_dups]

end MarkupTemplate
