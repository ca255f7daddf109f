/-!
Left-to-right substitution in a text. A rule looks at the characters from one
position on. Where it applies it names the replacement and how many characters
beyond the first it consumes; the search goes on behind them, so matches never
overlap and a replacement is not searched again.
-/

namespace MarkupTemplate

abbrev Substitution := List Char → Option (List Char × Nat)

/-- Substitutes in a text of which the first `skip` characters are already consumed. -/
def substituteAfter (rule : Substitution) : Nat → List Char → List Char
  | _, [] => []
  | skip + 1, _ :: rest => substituteAfter rule skip rest
  | 0, c :: rest =>
      match rule (c :: rest) with
      | none => c :: substituteAfter rule 0 rest
      | some (replacement, more) => replacement ++ substituteAfter rule more rest

def substitute (rule : Substitution) (text : List Char) : List Char :=
  substituteAfter rule 0 text

theorem substituteAfter_drop (rule : Substitution) (skip : Nat) (text : List Char) :
    substituteAfter rule skip text = substitute rule (text.drop skip) := by
  induction text generalizing skip with
  | nil => cases skip <;> simp [substituteAfter, substitute]
  | cons c rest ih =>
      cases skip with
      | zero => rfl
      | succ skip => simpa [substituteAfter] using ih skip

@[simp] theorem substitute_nil (rule : Substitution) : substitute rule [] = [] := rfl

theorem substitute_kept (rule : Substitution) (c : Char) (rest : List Char)
    (absent : rule (c :: rest) = none) :
    substitute rule (c :: rest) = c :: substitute rule rest := by
  simp [substitute, substituteAfter, absent]

theorem substitute_found (rule : Substitution) (c : Char) (rest replacement : List Char)
    (more : Nat) (found : rule (c :: rest) = some (replacement, more)) :
    substitute rule (c :: rest) = replacement ++ substitute rule (rest.drop more) := by
  simp only [substitute, substituteAfter, found]
  rw [substituteAfter_drop, substitute]

/-- Characters of a kind stay of that kind where every replacement is. -/
theorem substituteAfter_all (rule : Substitution) (kind : Char → Prop)
    (keeps : ∀ text replacement more, (∀ c ∈ text, kind c) →
      rule text = some (replacement, more) → ∀ c ∈ replacement, kind c)
    (skip : Nat) (text : List Char) (all : ∀ c ∈ text, kind c) :
    ∀ c ∈ substituteAfter rule skip text, kind c := by
  induction text generalizing skip with
  | nil => cases skip <;> exact nofun
  | cons first rest ih =>
      have later := fun skip => ih skip fun c member => all c (List.mem_cons_of_mem first member)
      cases skip with
      | succ skip => exact later skip
      | zero =>
          rw [substituteAfter]
          split
          · exact List.forall_mem_cons.mpr ⟨all first List.mem_cons_self, later 0⟩
          · rename_i replacement more found
            exact List.forall_mem_append.mpr ⟨keeps _ _ _ all found, later more⟩

end MarkupTemplate
