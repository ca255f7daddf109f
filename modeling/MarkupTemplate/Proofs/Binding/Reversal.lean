import MarkupTemplate.Proofs.Binding.Conversion
import MarkupTemplate.Proofs.Binding.Typing
import Mathlib.Data.List.Forall2

/-!
Typed data shown as values and converted back. Each layer of a type is undone by the layer that
converts it: an option is told from its item by null, a list goes item by item, a map entry by entry
under the texts of its keys. Main statement: what the data of a type are shown as converts back to
the same data.
-/

namespace MarkupTemplate

/-- No data of the type are shown as null. Options and values may be null themselves. -/
def Ty.neverNull : Ty → Bool
  | .value | .option _ => false
  | .boxed item => item.neverNull
  | _ => true

/-- The types whose data convert back. An option of something that may itself be null does not, a
narrow float and a record are left out. -/
def Ty.reversible : Ty → Bool
  | .atom _ | .float64 | .value => true
  | .option item => item.neverNull && item.reversible
  | .boxed item | .list item | .map _ _ item => item.reversible
  | .float32 | .record _ => false

/-- Entries with the same keys, and data that are the same under each. -/
def EntriesSame (same : Datum → Datum → Prop) :
    List (Atom × Datum) → List (Atom × Datum) → Prop :=
  List.Forall₂ fun entry other => entry.1 = other.1 ∧ same entry.2 other.2

/-- Equal data of a type. Lists and maps that keep an order have it in common; a map that goes by
the texts of its keys may list its entries in another order. -/
def Ty.Same : Ty → Datum → Datum → Prop
  | .option item, .present left, .present right => item.Same left right
  | .boxed item, left, right => item.Same left right
  | .list item, .list left, .list right => List.Forall₂ item.Same left right
  | .map order _ item, .map left, .map right =>
      ∃ listed, order.Lists left listed ∧ EntriesSame item.Same listed right
  | _, left, right => left = right

/-- Whether all maps in data of the type have an order of their own. -/
def Ty.ordered : Ty → Bool
  | .option item | .boxed item | .list item => item.ordered
  | .map order _ item => order != .text && item.ordered
  | _ => true

theorem entries_same_keys (same : Datum → Datum → Prop) (left right : List (Atom × Datum))
    (entries : EntriesSame same left right) : left.map Prod.fst = right.map Prod.fst := by
  have keys : List.Forall₂ (· = ·) (left.map Prod.fst) (right.map Prod.fst) := by
    rw [List.forall₂_map_left_iff, List.forall₂_map_right_iff]
    exact entries.imp fun _ _ both => both.1
  rwa [List.forall₂_eq_eq_eq] at keys

/-- Without a map that goes by texts, the same data are listed alike. -/
theorem Ty.same_eq (type : Ty) (ordered : type.ordered = true) (left right : Datum)
    (same : type.Same left right) : left = right := by
  induction type generalizing left right with
  | atom | float32 | float64 | value | record => exact same
  | boxed item ih => exact ih ordered left right same
  | option item ih =>
      cases left with
      | present first =>
          cases right with
          | present second => exact congrArg Datum.present (ih ordered first second same)
          | _ => exact same
      | _ => exact same
  | list item ih =>
      cases left with
      | list first =>
          cases right with
          | list second =>
              have items : List.Forall₂ (· = ·) first second := same.imp (ih ordered)
              rw [List.forall₂_eq_eq_eq] at items
              exact congrArg Datum.list items
          | _ => exact same
      | _ => exact same
  | map order key item ih =>
      obtain ⟨kind, inner⟩ := Bool.and_eq_true_iff.mp ordered
      cases left with
      | map first =>
          cases right with
          | map second =>
              obtain ⟨listed, lists, entries⟩ := same
              have equal : first = listed := by
                cases order with
                | text => cases kind
                | ascending | insertion => exact lists
              have items : List.Forall₂ (· = ·) listed second :=
                entries.imp fun _ _ both => Prod.ext both.1 (ih inner _ _ both.2)
              rw [List.forall₂_eq_eq_eq] at items
              exact congrArg Datum.map (equal.trans items)
          | _ => exact same
      | _ => exact same

theorem in_order_forall {α β γ ε : Type} (read : α → Except ε β) (shown : γ → α)
    (related : β → γ → Prop) (items : List γ)
    (each : ∀ item ∈ items, ∃ value, read (shown item) = .ok value ∧ related value item) :
    ∃ values, inOrder (items.map fun item => read (shown item)) = .ok values ∧
      List.Forall₂ related values items := by
  induction items with
  | nil => exact ⟨[], rfl, .nil⟩
  | cons item rest ih =>
      obtain ⟨value, here, related⟩ := each item List.mem_cons_self
      obtain ⟨values, others, later⟩ := ih fun other inside =>
        each other (List.mem_cons_of_mem item inside)
      refine ⟨value :: values, ?_, .cons related later⟩
      rw [List.map_cons, inOrder, here, others]
      rfl

/-- Only what may be null is shown as null. -/
theorem shown_not_null (schema : Schema) (type : Ty) (datum : Datum) (never : type.neverNull = true)
    (has : type.Has datum) : (datum.toValue schema).isNull = false := by
  induction type with
  | atom type =>
      cases datum with
      | atom content => exact content.shown_not_null has.2
      | float | value | absent | present | list | map | record => cases has
  | float64 =>
      cases datum with
      | float number => rfl
      | atom | value | absent | present | list | map | record => cases has
  | boxed item ih => exact ih never has
  | list item _ =>
      cases datum with
      | list items => rfl
      | atom | float | value | absent | present | map | record => cases has
  | map order key item _ =>
      cases datum with
      | map entries => rfl
      | atom | float | value | absent | present | list | record => cases has
  | value | option => cases never
  | float32 | record => cases datum <;> cases has

namespace Ty

/-- What data of the type are shown as converts to the same data. -/
def Reverses (schema : Schema) (type : Ty) : Prop :=
  ∀ datum, type.Has datum →
    ∃ back, convert schema (datum.toValue schema) type = .ok back ∧ type.Same back datum

variable (schema : Schema)

theorem atom_reverses (type : AtomType) : Reverses schema (.atom type) := by
  intro datum has
  cases datum with
  | atom content =>
      refine ⟨.atom content, ?_, rfl⟩
      rw [Datum.toValue, convert_atom, Atom.of_shown type content has.1 has.2]
      rfl
  | float | value | absent | present | list | map | record => cases has

theorem float_reverses : Reverses schema .float64 := by
  intro datum has
  cases datum with
  | float number => exact ⟨.float number, rfl, rfl⟩
  | atom | value | absent | present | list | map | record => cases has

theorem value_reverses : Reverses schema .value := by
  intro datum has
  cases datum with
  | value content => exact ⟨.value content, convert_value schema content, rfl⟩
  | atom | float | absent | present | list | map | record => cases has

theorem option_reverses (item : Ty) (never : item.neverNull = true)
    (inner : item.Reverses schema) : Reverses schema (.option item) := by
  intro datum has
  rw [convert_option]
  cases datum with
  | absent => exact ⟨.absent, rfl, rfl⟩
  | present content =>
      obtain ⟨back, converted, same⟩ := inner content has
      refine ⟨.present back, ?_, same⟩
      rw [Datum.toValue, shown_not_null schema item content never has, converted]
      rfl
  | atom | float | value | list | map | record => cases has

theorem boxed_reverses (item : Ty) (inner : item.Reverses schema) :
    Reverses schema (.boxed item) := by
  intro datum has
  rw [convert_boxed]
  exact inner datum has

theorem list_reverses (item : Ty) (inner : item.Reverses schema) :
    Reverses schema (.list item) := by
  intro datum has
  cases datum with
  | list items =>
      obtain ⟨backs, converted, same⟩ := in_order_forall (fun value => convert schema value item)
        (·.toValue schema) item.Same items fun content inside => inner content (has content inside)
      refine ⟨.list backs, ?_, same⟩
      rw [Datum.toValue, items_to_value_map, convert_list, List.map_map]
      exact congrArg (Except.map Datum.list) converted
  | atom | float | value | absent | present | map | record => cases has

-- No two keys have one text, so that no entry is lost where the map is shown.
theorem entries_shown (order : MapOrder) (key : AtomType) (entries : List (Atom × Datum))
    (keeps : order.Keeps (entries.map Prod.fst))
    (keys : ∀ atom ∈ entries.map Prod.fst, key.Has atom) :
    (Datum.map entries).toValue schema =
      .map (entries.map fun entry => (entry.1.text, entry.2.toValue schema)) := by
  have distinct : Dict.Distinct (entriesToValue schema entries) := by
    have texts := MapOrder.texts_nodup key _ (order.keeps_nodup _ keeps) keys
    rw [List.map_map] at texts
    rw [entries_to_value_map, Dict.Distinct, Dict.keys, List.map_map]
    exact texts
  rw [Datum.toValue, Dict.ofList_distinct _ distinct, entries_to_value_map]

theorem map_reverses (order : MapOrder) (key : AtomType) (item : Ty)
    (inner : item.Reverses schema) : Reverses schema (.map order key item) := by
  intro datum has
  cases datum with
  | map entries =>
      obtain ⟨keeps, each⟩ := has
      have keys : ∀ atom ∈ entries.map Prod.fst, key.Has atom := by
        intro atom member
        obtain ⟨entry, inside, rfl⟩ := List.mem_map.mp member
        exact (each entry inside).1
      obtain ⟨backs, converted, same⟩ := in_order_forall
        (convertEntry schema key item)
        (fun entry : Atom × Datum => (entry.1.text, entry.2.toValue schema))
        (fun entry other => entry.1 = other.1 ∧ item.Same entry.2 other.2) entries (by
          intro entry inside
          obtain ⟨back, converted, same⟩ := inner entry.2 (each entry inside).2
          refine ⟨(entry.1, back), ?_, rfl, same⟩
          simp only [convertEntry, Atom.of_text key entry.1 (each entry inside).1, converted]
          rfl)
      -- The entries that come back have the keys that were shown, so they can be arranged.
      have sameKeys := entries_same_keys item.Same backs entries same
      have listed := order.arrange_lists key backs (sameKeys ▸ keeps) (sameKeys ▸ keys)
      refine ⟨.map (order.arrange backs), ?_, backs, listed, same⟩
      rw [entries_shown schema order key entries keeps keys, convert_map, List.map_map]
      exact congrArg (Except.map fun entries => Datum.map (order.arrange entries)) converted
  | atom | float | value | absent | present | list | record => cases has

theorem reverses (type : Ty) (reversible : type.reversible = true) : type.Reverses schema := by
  induction type with
  | atom type => exact atom_reverses schema type
  | float64 => exact float_reverses schema
  | value => exact value_reverses schema
  | option item ih =>
      obtain ⟨never, inner⟩ := Bool.and_eq_true_iff.mp reversible
      exact option_reverses schema item never (ih inner)
  | boxed item ih => exact boxed_reverses schema item (ih reversible)
  | list item ih => exact list_reverses schema item (ih reversible)
  | map order key item ih => exact map_reverses schema order key item (ih reversible)
  | float32 | record => cases reversible

/-- Data of a reversible type convert back from what they are shown as: to the same data, and to
these data in the very same order where no map goes by the texts of its keys. -/
theorem shown_converts_back (type : Ty) (reversible : type.reversible = true) (datum : Datum)
    (has : type.Has datum) :
    ∃ back, convert schema (datum.toValue schema) type = .ok back ∧ type.Same back datum ∧
      (type.ordered = true → back = datum) := by
  obtain ⟨back, converted, same⟩ := reverses schema type reversible datum has
  exact ⟨back, converted, same, fun ordered => same_eq type ordered back datum same⟩

/-- Maps under numbers, in no order of their own, of lists that may be absent. -/
def sampleTables : Ty :=
  .map .text (.int .i8) (.boxed (.map .ascending .bool (.option (.list .float64))))

def sampleTable : Datum :=
  .map [(.bool false, .absent), (.bool true, .present (.list [.float .nan]))]

/-- The entries stand in the order of the numbers, which is not that of their texts. -/
def sampleNumbered : Datum := .map [(.int 9, sampleTable), (.int 10, .map [])]

theorem sample_has : sampleTables.Has sampleNumbered := by
  have table : Ty.Has (.map .ascending .bool (.option (.list .float64))) sampleTable := by
    refine ⟨List.pairwise_pair.mpr rfl, ?_⟩
    simp [AtomType.Has, Ty.Has]
  have empty : Ty.Has (.map .ascending .bool (.option (.list .float64))) (.map []) :=
    ⟨List.Pairwise.nil, by simp⟩
  have small : ∀ number ∈ [(9 : Int), 10], AtomType.Has (.int .i8) (.int number) := by
    unfold AtomType.Has
    decide
  refine ⟨by simp [MapOrder.Keeps], ?_⟩
  intro entry member
  rcases List.mem_cons.mp member with rfl | member
  · exact ⟨small 9 (by decide), table⟩
  · cases List.mem_singleton.mp member
    exact ⟨small 10 (by decide), empty⟩

theorem shown_converts_back_tables :
    sampleTables.reversible = true ∧ sampleTables.Has sampleNumbered ∧
      ∃ back, convert ⟨"", []⟩ (sampleNumbered.toValue ⟨"", []⟩) sampleTables = .ok back ∧
        sampleTables.Same back sampleNumbered ∧
        (sampleTables.ordered = true → back = sampleNumbered) :=
  ⟨rfl, sample_has, shown_converts_back ⟨"", []⟩ sampleTables rfl sampleNumbered sample_has⟩

end Ty

end MarkupTemplate
