/-!
Dictionaries with string keys, kept as lists of entries. A plain dictionary
keeps the order in which its keys first came; writing a present key overwrites
the value in place. An ordered one keeps its keys ascending. Either way no key
occurs twice, which `Distinct` states.
-/

namespace MarkupTemplate

abbrev Dict (α : Type) := List (String × α)

namespace Dict

variable {α : Type}

def find (key : String) : Dict α → Option α
  | [] => none
  | (present, value) :: rest => if present = key then some value else find key rest

def keys (entries : Dict α) : List String := entries.map Prod.fst

def Distinct (entries : Dict α) : Prop := (keys entries).Nodup

instance (entries : Dict α) : Decidable (Distinct entries) :=
  inferInstanceAs (Decidable (keys entries).Nodup)

def insert (key : String) (value : α) : Dict α → Dict α
  | [] => [(key, value)]
  | (present, held) :: rest =>
      if present = key then (key, value) :: rest else (present, held) :: insert key value rest

def erase (key : String) : Dict α → Dict α
  | [] => []
  | (present, value) :: rest =>
      if present = key then rest else (present, value) :: erase key rest

/-- Writes entries one after another, so that the last value of a repeated key stays. -/
def insertAll (entries : List (String × α)) (base : Dict α) : Dict α :=
  entries.foldl (fun dict entry => insert entry.1 entry.2 dict) base

def ofList (entries : List (String × α)) : Dict α := insertAll entries []

theorem find_insert (key name : String) (value : α) (entries : Dict α) :
    find name (insert key value entries) =
      if key = name then some value else find name entries := by
  induction entries with
  | nil => simp [insert, find]
  | cons entry rest ih =>
      obtain ⟨present, held⟩ := entry
      by_cases taken : present = key
      · subst taken
        by_cases same : present = name <;> simp [insert, find, same]
      · simp only [insert, taken, ↓reduceIte, find, ih]
        by_cases same : present = name
        · have other : key ≠ name := fun equal => taken (same.trans equal.symm)
          simp [same, other]
        · simp [same]

theorem find_insertAll_absent (name : String) (entries base : Dict α)
    (absent : name ∉ keys entries) : find name (insertAll entries base) = find name base := by
  induction entries generalizing base with
  | nil => rfl
  | cons entry rest ih =>
      simp only [keys, List.map_cons, List.mem_cons, not_or] at absent
      have later := ih (insert entry.1 entry.2 base) absent.2
      rw [find_insert, if_neg (Ne.symm absent.1)] at later
      exact later

theorem find_erase_other (key name : String) (entries : Dict α) (other : key ≠ name) :
    find name (erase key entries) = find name entries := by
  induction entries with
  | nil => rfl
  | cons entry rest ih =>
      obtain ⟨present, value⟩ := entry
      rw [erase]
      by_cases taken : present = key
      · rw [if_pos taken, find, if_neg (taken ▸ other)]
      · rw [if_neg taken, find, find, ih]

theorem find_erased_absent (name : String) (erased : List String) (entries : Dict α)
    (absent : name ∉ erased) : find name (erased.foldr erase entries) = find name entries := by
  induction erased with
  | nil => rfl
  | cons first rest ih =>
      simp only [List.mem_cons, not_or] at absent
      rw [List.foldr_cons, find_erase_other first name _ (Ne.symm absent.1), ih absent.2]

theorem find_append_absent (key : String) (left right : Dict α) (absent : key ∉ keys left) :
    find key (left ++ right) = find key right := by
  induction left with
  | nil => rfl
  | cons entry rest ih =>
      obtain ⟨present, held⟩ := entry
      simp only [keys, List.map_cons, List.mem_cons, not_or] at absent
      rw [List.cons_append, find, if_neg (Ne.symm absent.1), ih absent.2]

theorem insert_append_absent (key : String) (value : α) (left right : Dict α)
    (absent : key ∉ keys left) :
    insert key value (left ++ right) = left ++ insert key value right := by
  induction left with
  | nil => rfl
  | cons entry rest ih =>
      obtain ⟨present, held⟩ := entry
      simp only [keys, List.map_cons, List.mem_cons, not_or] at absent
      rw [List.cons_append, insert, if_neg (Ne.symm absent.1), ih absent.2, List.cons_append]

theorem insert_absent (key : String) (value : α) (entries : Dict α) (absent : key ∉ keys entries) :
    insert key value entries = entries ++ [(key, value)] := by
  simpa [insert] using insert_append_absent key value entries [] absent

theorem insertAll_distinct (entries base : Dict α) (distinct : Distinct (base ++ entries)) :
    insertAll entries base = base ++ entries := by
  induction entries generalizing base with
  | nil => simp [insertAll]
  | cons entry rest ih =>
      obtain ⟨key, value⟩ := entry
      have absent : key ∉ keys base := by
        simp only [Distinct, keys, List.map_append, List.map_cons] at distinct
        have apart := (List.nodup_append.mp distinct).2.2
        exact fun member => apart key member key List.mem_cons_self rfl
      have step : insertAll ((key, value) :: rest) base =
          insertAll rest (insert key value base) := rfl
      rw [step, insert_absent key value base absent, ih _ (by simpa using distinct)]
      simp

/-- Entries without a repeated key are a dictionary as they stand. -/
theorem ofList_distinct (entries : Dict α) (distinct : Distinct entries) :
    ofList entries = entries := insertAll_distinct entries [] distinct

theorem find_of_mem (entries : Dict α) (key : String) (value : α) (distinct : Distinct entries)
    (member : (key, value) ∈ entries) : find key entries = some value := by
  induction entries with
  | nil => cases member
  | cons entry rest ih =>
      obtain ⟨present, held⟩ := entry
      simp only [Distinct, keys, List.map_cons, List.nodup_cons] at distinct
      rcases List.mem_cons.mp member with same | member
      · cases same
        simp [find]
      · have other : present ≠ key := by
          rintro rfl
          exact distinct.1 (List.mem_map_of_mem member)
        rw [find, if_neg other, ih distinct.2 member]

theorem mem_of_find (entries : Dict α) (key : String) (value : α)
    (found : find key entries = some value) : (key, value) ∈ entries := by
  induction entries with
  | nil => cases found
  | cons entry rest ih =>
      obtain ⟨present, held⟩ := entry
      by_cases same : present = key
      · rw [find, if_pos same] at found
        cases found
        subst same
        exact List.mem_cons_self
      · rw [find, if_neg same] at found
        exact List.mem_cons_of_mem _ (ih found)

theorem find_none_iff (entries : Dict α) (key : String) :
    find key entries = none ↔ key ∉ keys entries := by
  induction entries with
  | nil => simp [find, keys]
  | cons entry rest ih =>
      obtain ⟨present, held⟩ := entry
      by_cases same : present = key
      · simp [find, keys, same]
      · rw [find, if_neg same, ih]
        simp [keys, Ne.symm same]

/-- Two dictionaries with the same keys find a value under the same ones. -/
theorem find_related {β : Type} (related : α → β → Prop) (left : Dict α) (right : Dict β)
    (same : (keys left).Perm (keys right))
    (values : ∀ key first second, find key left = some first → find key right = some second →
      related first second)
    (key : String) : Option.Rel related (find key left) (find key right) := by
  cases onLeft : find key left with
  | none =>
      have absent := (find_none_iff left key).mp onLeft
      rw [(find_none_iff right key).mpr fun member => absent (same.mem_iff.mpr member)]
      exact .none
  | some first =>
      cases onRight : find key right with
      | none =>
          have absent := (find_none_iff right key).mp onRight
          rw [(find_none_iff left key).mpr fun member => absent (same.mem_iff.mp member)] at onLeft
          cases onLeft
      | some second => exact .some (values key first second onLeft onRight)

theorem nodup_of_distinct (entries : Dict α) (distinct : Distinct entries) : entries.Nodup :=
  List.Pairwise.of_map Prod.fst (fun _ _ apart same => apart (congrArg Prod.fst same)) distinct

theorem perm_of_find (left right : Dict α) (leftDistinct : Distinct left)
    (rightDistinct : Distinct right) (same : ∀ key, find key left = find key right) :
    left.Perm right := by
  apply (List.perm_ext_iff_of_nodup (nodup_of_distinct left leftDistinct)
    (nodup_of_distinct right rightDistinct)).mpr
  rintro ⟨key, value⟩
  constructor
  · intro member
    apply mem_of_find
    rw [← same key, find_of_mem left key value leftDistinct member]
  · intro member
    apply mem_of_find
    rw [same key, find_of_mem right key value rightDistinct member]

@[simp] theorem keys_map_values {β : Type} (change : α → β) (entries : Dict α) :
    keys (entries.map fun entry => (entry.1, change entry.2)) = keys entries := by
  simp [keys]

theorem find_map_values {β : Type} (change : α → β) (key : String) (entries : Dict α) :
    find key (entries.map fun entry => (entry.1, change entry.2)) =
      (find key entries).map change := by
  induction entries with
  | nil => rfl
  | cons entry rest ih =>
      obtain ⟨present, held⟩ := entry
      by_cases same : present = key <;> simp [find, same, ih]

theorem distinct_filter (keep : String × α → Bool) (entries : Dict α)
    (distinct : Distinct entries) : Distinct (entries.filter keep) :=
  distinct.sublist (List.filter_sublist.map Prod.fst)

/-- Leaving out entries by their values leaves a key with its value or with none. -/
theorem find_filter (keep : α → Bool) (key : String) (entries : Dict α)
    (distinct : Distinct entries) :
    find key (entries.filter fun entry => keep entry.2) = (find key entries).filter keep := by
  induction entries with
  | nil => rfl
  | cons entry rest ih =>
      obtain ⟨present, held⟩ := entry
      simp only [Distinct, keys, List.map_cons, List.nodup_cons] at distinct
      have later := ih distinct.2
      by_cases same : present = key
      · subst same
        have absent : find present rest = none := (find_none_iff rest present).mpr distinct.1
        rw [absent] at later
        cases kept : keep held <;> simp [find, kept, later, Option.filter_some]
      · cases kept : keep held <;> simp [find, kept, later, same]

theorem find_of_perm (left right : Dict α) (distinct : Distinct left) (perm : left.Perm right)
    (key : String) : find key left = find key right := by
  have rightDistinct : Distinct right := (perm.map Prod.fst).nodup_iff.mp distinct
  apply Option.ext
  intro value
  constructor
  · intro found
    exact find_of_mem right key value rightDistinct
      (perm.mem_iff.mp (mem_of_find left key value found))
  · intro found
    exact find_of_mem left key value distinct
      (perm.mem_iff.mpr (mem_of_find right key value found))

/-- Where the values under each key change into equal ones, the two dictionaries become the same
but for the order. -/
theorem perm_map_values {β γ : Type} (change : α → γ) (other : β → γ) (left : Dict α)
    (right : Dict β) (distinct : Distinct left) (same : (keys left).Perm (keys right))
    (values : ∀ key first second, find key left = some first → find key right = some second →
      change first = other second) :
    (left.map fun entry => (entry.1, change entry.2)).Perm
      (right.map fun entry => (entry.1, other entry.2)) := by
  apply perm_of_find
  · rwa [Distinct, keys_map_values]
  · rw [Distinct, keys_map_values]
    exact same.nodup_iff.mp distinct
  · intro key
    rw [find_map_values, find_map_values]
    have found := find_related _ left right same values key
    generalize find key left = first, find key right = second at found
    cases found with
    | none => rfl
    | some agree => exact congrArg some agree

theorem mem_keys_insert (key name : String) (value : α) (entries : Dict α) :
    name ∈ keys (insert key value entries) ↔ name = key ∨ name ∈ keys entries := by
  induction entries with
  | nil => simp [insert, keys]
  | cons entry rest ih =>
      obtain ⟨present, held⟩ := entry
      by_cases taken : present = key
      · subst taken
        simp [insert, keys]
      · simp only [insert, taken, ↓reduceIte, keys, List.map_cons, List.mem_cons]
        rw [← keys, ih, keys]
        grind

theorem distinct_insert (key : String) (value : α) (entries : Dict α)
    (distinct : Distinct entries) :
    Distinct (insert key value entries) := by
  induction entries with
  | nil => simp [insert, Distinct, keys]
  | cons entry rest ih =>
      obtain ⟨present, held⟩ := entry
      simp only [Distinct, keys, List.map_cons, List.nodup_cons] at distinct
      by_cases taken : present = key
      · subst taken
        simpa [insert, Distinct, keys] using distinct
      · simp only [insert, taken, ↓reduceIte, Distinct, keys, List.map_cons, List.nodup_cons]
        refine ⟨fun member => ?_, ih distinct.2⟩
        rcases (mem_keys_insert key present value rest).mp member with same | member
        · exact taken same
        · exact distinct.1 member

theorem distinct_insertAll (entries base : Dict α) (distinct : Distinct base) :
    Distinct (insertAll entries base) := by
  induction entries generalizing base with
  | nil => exact distinct
  | cons entry rest ih => exact ih _ (distinct_insert entry.1 entry.2 base distinct)

theorem distinct_ofList (entries : Dict α) : Distinct (ofList entries) :=
  distinct_insertAll entries [] List.nodup_nil

theorem mem_insert (key : String) (value : α) (entries : Dict α) :
    ∀ entry ∈ insert key value entries, entry = (key, value) ∨ entry ∈ entries := by
  induction entries with
  | nil =>
      intro entry member
      exact .inl (List.mem_singleton.mp member)
  | cons first rest ih =>
      obtain ⟨present, held⟩ := first
      intro entry member
      rw [insert] at member
      by_cases taken : present = key
      · rw [if_pos taken] at member
        rcases List.mem_cons.mp member with written | later
        · exact .inl written
        · exact .inr (List.mem_cons_of_mem _ later)
      · rw [if_neg taken] at member
        rcases List.mem_cons.mp member with rfl | later
        · exact .inr List.mem_cons_self
        · exact (ih entry later).imp_right (List.mem_cons_of_mem _)

theorem mem_insertAll (entries base : Dict α) :
    ∀ entry ∈ insertAll entries base, entry ∈ entries ∨ entry ∈ base := by
  induction entries generalizing base with
  | nil =>
      intro entry member
      exact .inr member
  | cons first rest ih =>
      intro entry member
      rcases ih _ entry member with later | before
      · exact .inl (List.mem_cons_of_mem _ later)
      · rcases mem_insert first.1 first.2 base entry before with rfl | held
        · exact .inl List.mem_cons_self
        · exact .inr held

theorem insert_filled (key : String) (value : α) (entries : Dict α) :
    insert key value entries ≠ [] := by
  cases entries with
  | nil => exact List.cons_ne_nil _ _
  | cons entry rest =>
      rw [insert]
      split <;> exact List.cons_ne_nil _ _

/-- A dictionary that is written from entries has no others. -/
theorem mem_ofList (entries : Dict α) : ∀ entry ∈ ofList entries, entry ∈ entries := by
  intro entry member
  rcases mem_insertAll entries [] entry member with given | nothing
  · exact given
  · cases nothing

theorem erase_sublist (key : String) (entries : Dict α) : (erase key entries).Sublist entries := by
  induction entries with
  | nil => exact List.Sublist.refl _
  | cons entry rest ih =>
      obtain ⟨present, value⟩ := entry
      rw [erase]
      by_cases taken : present = key
      · rw [if_pos taken]
        exact List.sublist_cons_self _ rest
      · rw [if_neg taken]
        exact ih.cons_cons _

theorem distinct_erase (key : String) (entries : Dict α) (distinct : Distinct entries) :
    Distinct (erase key entries) :=
  distinct.sublist ((erase_sublist key entries).map Prod.fst)

theorem erased_absent (key : String) (entries : Dict α) (distinct : Distinct entries) :
    key ∉ keys (erase key entries) := by
  induction entries with
  | nil => exact List.not_mem_nil
  | cons entry rest ih =>
      obtain ⟨present, value⟩ := entry
      simp only [Distinct, keys, List.map_cons, List.nodup_cons] at distinct
      rw [erase]
      by_cases taken : present = key
      · rw [if_pos taken]
        exact taken ▸ distinct.1
      · rw [if_neg taken]
        intro member
        rcases List.mem_cons.mp member with same | later
        · exact taken same.symm
        · exact ih distinct.2 later

end Dict

/-- Writes an entry into a list that is ascending by key; a present key gets the new value. -/
def insertOrdered {κ α : Type} (order : κ → κ → Ordering) (key : κ) (value : α) :
    List (κ × α) → List (κ × α)
  | [] => [(key, value)]
  | (present, held) :: rest =>
      match order key present with
      | .lt => (key, value) :: (present, held) :: rest
      | .eq => (key, value) :: rest
      | .gt => (present, held) :: insertOrdered order key value rest

/-- The entries in ascending order of their keys, the last value of a repeated key. -/
def orderedBy {κ α : Type} (order : κ → κ → Ordering) (entries : List (κ × α)) : List (κ × α) :=
  entries.foldl (fun sorted entry => insertOrdered order entry.1 entry.2 sorted) []

/-- Strings are ordered by code point. -/
def Dict.ascending {α : Type} (entries : Dict α) : Dict α := orderedBy compare entries

theorem insertOrdered_perm {κ α : Type} (order : κ → κ → Ordering) (key : κ) (value : α)
    (entries : List (κ × α)) (apart : ∀ entry ∈ entries, order key entry.1 ≠ .eq) :
    (insertOrdered order key value entries).Perm ((key, value) :: entries) := by
  induction entries with
  | nil => exact List.Perm.refl _
  | cons entry rest ih =>
      obtain ⟨present, held⟩ := entry
      rw [insertOrdered]
      cases compared : order key present with
      | lt => exact List.Perm.refl _
      | eq => exact (apart (present, held) List.mem_cons_self compared).elim
      | gt =>
          have later := ih fun entry inside => apart entry (List.mem_cons_of_mem _ inside)
          exact (later.cons _).trans (List.Perm.swap _ _ _)

theorem foldl_insertOrdered_perm {κ α : Type} (order : κ → κ → Ordering) [Std.OrientedCmp order]
    (entries sorted : List (κ × α))
    (apart : (entries ++ sorted).Pairwise fun entry later => order entry.1 later.1 ≠ .eq) :
    (entries.foldl (fun sorted entry => insertOrdered order entry.1 entry.2 sorted) sorted).Perm
      (entries ++ sorted) := by
  induction entries generalizing sorted with
  | nil => exact List.Perm.refl _
  | cons entry rest ih =>
      rw [List.cons_append] at apart
      have fresh : ∀ other ∈ sorted, order entry.1 other.1 ≠ .eq := fun other inside =>
        (List.pairwise_cons.mp apart).1 other (List.mem_append_right rest inside)
      have moved : (rest ++ insertOrdered order entry.1 entry.2 sorted).Perm
          (entry :: (rest ++ sorted)) :=
        ((insertOrdered_perm order entry.1 entry.2 sorted fresh).append_left rest).trans
          List.perm_middle
      have still := apart.perm moved.symm fun unequal equal =>
        unequal (Std.OrientedCmp.eq_symm equal)
      exact (ih _ still).trans moved

/-- Sorting entries only reorders them where no two keys are equal in the order. -/
theorem orderedBy_perm {κ α : Type} (order : κ → κ → Ordering) [Std.OrientedCmp order]
    (entries : List (κ × α))
    (apart : entries.Pairwise fun entry later => order entry.1 later.1 ≠ .eq) :
    (orderedBy order entries).Perm entries := by
  have sorted := foldl_insertOrdered_perm order entries [] (by rwa [List.append_nil])
  rwa [List.append_nil] at sorted

theorem insertOrdered_map_values {κ α β : Type} (order : κ → κ → Ordering) (change : α → β)
    (key : κ) (value : α) (entries : List (κ × α)) :
    insertOrdered order key (change value) (entries.map fun entry => (entry.1, change entry.2)) =
      (insertOrdered order key value entries).map fun entry => (entry.1, change entry.2) := by
  induction entries with
  | nil => rfl
  | cons entry rest ih =>
      obtain ⟨present, held⟩ := entry
      rw [List.map_cons, insertOrdered, insertOrdered, ih]
      cases order key present <;> rfl

/-- Entries are sorted without regard to their values. -/
theorem orderedBy_map_values {κ α β : Type} (order : κ → κ → Ordering) (change : α → β)
    (entries : List (κ × α)) :
    orderedBy order (entries.map fun entry => (entry.1, change entry.2)) =
      (orderedBy order entries).map fun entry => (entry.1, change entry.2) := by
  have sorted : ∀ start : List (κ × α),
      (entries.map fun entry => (entry.1, change entry.2)).foldl
          (fun sorted entry => insertOrdered order entry.1 entry.2 sorted)
          (start.map fun entry => (entry.1, change entry.2)) =
        (entries.foldl (fun sorted entry => insertOrdered order entry.1 entry.2 sorted) start).map
          fun entry => (entry.1, change entry.2) := by
    induction entries with
    | nil => exact fun _ => rfl
    | cons entry rest ih =>
        intro start
        simp only [List.map_cons, List.foldl_cons, insertOrdered_map_values, ih]
  exact sorted []

theorem Dict.ascending_perm {α : Type} (entries : Dict α) (distinct : Dict.Distinct entries) :
    (Dict.ascending entries).Perm entries := by
  refine orderedBy_perm compare entries ((List.pairwise_map.mp distinct).imp ?_)
  exact fun unequal equal => unequal (Std.LawfulEqOrd.eq_of_compare equal)

/-- The keys of the entries are ascending, and none occurs twice. -/
def Ascending {κ α : Type} (order : κ → κ → Ordering) (entries : List (κ × α)) : Prop :=
  entries.Pairwise fun entry later => order entry.1 later.1 = .lt

theorem insertOrdered_last {κ α : Type} (order : κ → κ → Ordering) [Std.OrientedCmp order]
    (key : κ) (value : α) (entries : List (κ × α))
    (below : ∀ entry ∈ entries, order entry.1 key = .lt) :
    insertOrdered order key value entries = entries ++ [(key, value)] := by
  induction entries with
  | nil => rfl
  | cons entry rest ih =>
      obtain ⟨present, held⟩ := entry
      have greater := Std.OrientedCmp.gt_of_lt (below (present, held) List.mem_cons_self)
      have later := ih fun entry inside => below entry (List.mem_cons_of_mem _ inside)
      rw [insertOrdered, greater, later, List.cons_append]

/-- Entries that are in order stay as they are. -/
theorem orderedBy_sorted {κ α : Type} (order : κ → κ → Ordering) [Std.OrientedCmp order]
    (entries : List (κ × α)) (ascending : Ascending order entries) :
    orderedBy order entries = entries := by
  have kept : ∀ sorted : List (κ × α), Ascending order (sorted ++ entries) →
      entries.foldl (fun sorted entry => insertOrdered order entry.1 entry.2 sorted) sorted =
        sorted ++ entries := by
    clear ascending
    induction entries with
    | nil => exact fun sorted _ => (List.append_nil sorted).symm
    | cons entry rest ih =>
        intro sorted ascending
        have below : ∀ other ∈ sorted, order other.1 entry.1 = .lt := fun other inside =>
          (List.pairwise_append.mp ascending).2.2 other inside entry List.mem_cons_self
        rw [List.foldl_cons, insertOrdered_last order entry.1 entry.2 sorted below,
          ih _ (by simpa using ascending), List.append_assoc, List.singleton_append]
  exact kept [] ascending

theorem mem_insertOrdered {κ α : Type} (order : κ → κ → Ordering) (key : κ) (value : α)
    (entries : List (κ × α)) (entry : κ × α)
    (member : entry ∈ insertOrdered order key value entries) :
    entry = (key, value) ∨ entry ∈ entries := by
  induction entries with
  | nil => exact Or.inl (List.mem_singleton.mp member)
  | cons first rest ih =>
      obtain ⟨present, held⟩ := first
      rw [insertOrdered] at member
      split at member
      · exact List.mem_cons.mp member
      · rcases List.mem_cons.mp member with same | inside
        · exact Or.inl same
        · exact Or.inr (List.mem_cons_of_mem _ inside)
      · rcases List.mem_cons.mp member with same | inside
        · exact Or.inr (same ▸ List.mem_cons_self)
        · rcases ih inside with same | later
          · exact Or.inl same
          · exact Or.inr (List.mem_cons_of_mem _ later)

theorem insertOrdered_ascending {κ α : Type} (order : κ → κ → Ordering) [Std.TransCmp order]
    (key : κ) (value : α) (entries : List (κ × α)) (ascending : Ascending order entries) :
    Ascending order (insertOrdered order key value entries) := by
  induction entries with
  | nil => exact List.pairwise_singleton _ _
  | cons first rest ih =>
      obtain ⟨present, held⟩ := first
      obtain ⟨below, later⟩ := List.pairwise_cons.mp ascending
      rw [insertOrdered]
      split
      · rename_i less
        refine List.pairwise_cons.mpr ⟨?_, ascending⟩
        intro entry member
        rcases List.mem_cons.mp member with rfl | inside
        · exact less
        · exact Std.TransCmp.lt_trans less (below entry inside)
      · rename_i equal
        refine List.pairwise_cons.mpr ⟨?_, later⟩
        intro entry inside
        exact Std.TransCmp.lt_of_eq_of_lt equal (below entry inside)
      · rename_i greater
        refine List.pairwise_cons.mpr ⟨?_, ih later⟩
        intro entry member
        rcases mem_insertOrdered order key value rest entry member with rfl | inside
        · exact Std.OrientedCmp.gt_iff_lt.mp greater
        · exact below entry inside

theorem orderedBy_ascending {κ α : Type} (order : κ → κ → Ordering) [Std.TransCmp order]
    (entries : List (κ × α)) : Ascending order (orderedBy order entries) := by
  have kept : ∀ sorted : List (κ × α), Ascending order sorted → Ascending order
      (entries.foldl (fun sorted entry => insertOrdered order entry.1 entry.2 sorted) sorted) := by
    induction entries with
    | nil => exact fun _ ascending => ascending
    | cons entry rest ih =>
        intro sorted ascending
        exact ih _ (insertOrdered_ascending order entry.1 entry.2 sorted ascending)
  exact kept [] List.Pairwise.nil

/-- Entries stand in one ascending order only. -/
theorem ascending_unique {κ α : Type} (order : κ → κ → Ordering) [Std.OrientedCmp order]
    (left right : List (κ × α)) (leftSorted : Ascending order left)
    (rightSorted : Ascending order right) (perm : left.Perm right) : left = right := by
  refine List.Perm.eq_of_pairwise ?_ leftSorted rightSorted perm
  intro entry later _ _ less greater
  rw [Std.OrientedCmp.gt_iff_lt.mpr greater] at less
  cases less

namespace Dict

variable {α β : Type}

/-- Two keys stand in one order only. -/
theorem ascending_keys_unique (left right : List String)
    (leftSorted : left.Pairwise fun key later => compare key later = .lt)
    (rightSorted : right.Pairwise fun key later => compare key later = .lt)
    (perm : left.Perm right) : left = right := by
  refine List.Perm.eq_of_pairwise ?_ leftSorted rightSorted perm
  intro key later _ _ less greater
  rw [Std.OrientedCmp.gt_iff_lt.mpr greater] at less
  cases less

theorem ascending_keys (left : Dict α) (right : Dict β) (leftDistinct : Distinct left)
    (rightDistinct : Distinct right) (perm : (keys left).Perm (keys right)) :
    keys (ascending left) = keys (ascending right) := by
  have leftPerm := (ascending_perm left leftDistinct).map Prod.fst
  have rightPerm := (ascending_perm right rightDistinct).map Prod.fst
  apply ascending_keys_unique
  · exact List.pairwise_map.mpr (orderedBy_ascending compare left)
  · exact List.pairwise_map.mpr (orderedBy_ascending compare right)
  · exact (leftPerm.trans perm).trans rightPerm.symm

/-- Sorting forgets the order that the entries had. -/
theorem ascending_of_perm (left right : Dict α) (distinct : Distinct left)
    (perm : left.Perm right) : ascending left = ascending right := by
  have rightDistinct : Distinct right := (perm.map Prod.fst).nodup_iff.mp distinct
  refine ascending_unique compare _ _ (orderedBy_ascending compare left)
    (orderedBy_ascending compare right) ?_
  exact ((ascending_perm left distinct).trans perm).trans (ascending_perm right rightDistinct).symm

end Dict

end MarkupTemplate
