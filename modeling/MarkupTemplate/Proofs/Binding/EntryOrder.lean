import MarkupTemplate.Binding.Shapes
import MarkupTemplate.Proofs.Binding.Conversion
import MarkupTemplate.Proofs.Binding.Integer
import MarkupTemplate.Proofs.Binding.Typing
import MarkupTemplate.Proofs.Sorting

/-!
The order in which the entries of a map come, where the map is converted to a sorted one. Keys are
converted from their texts, and different texts may be the same key: then the entry that comes last
stays. Main statement: entries that convert in one order do so in every order, to a map with the
same keys; it is the same map in every order exactly where entries of one key have one value, as
is so for keys that are spelled in one way only.
-/

namespace MarkupTemplate

/-! Atoms of different types are compared by their texts, which makes the order as a whole no order
of all atoms. On the atoms of one type it is the order of what they hold. -/

/-- The order of the atoms of a type, where atoms of other types count as zero. -/
def AtomType.order : AtomType → Atom → Atom → Ordering
  | .bool => compareOn fun
      | .bool truth => truth
      | _ => false
  | .char => compareOn fun
      | .char c => c
      | _ => '\x00'
  | .int _ => compareOn fun
      | .int number => number
      | _ => 0
  | .string => compareOn fun
      | .string content => content
      | _ => ""

instance (type : AtomType) : Std.TransCmp type.order := by
  cases type <;> exact inferInstanceAs (Std.TransCmp (compareOn _))

theorem AtomType.order_of_has (type : AtomType) (left right : Atom) (first : type.Has left)
    (second : type.Has right) : Atom.order left right = type.order left right := by
  match type, left, right, first, second with
  | .bool, .bool _, .bool _, _, _ => rfl
  | .char, .char _, .char _, _, _ => rfl
  | .int _, .int _, .int _, _, _ => rfl
  | .string, .string _, .string _, _, _ => rfl

theorem AtomType.eq_of_order (type : AtomType) (left right : Atom) (first : type.Has left)
    (second : type.Has right) (same : type.order left right = .eq) : left = right := by
  match type, left, right, first, second with
  | .bool, .bool _, .bool _, _, _ => exact congrArg Atom.bool (Std.LawfulEqOrd.eq_of_compare same)
  | .char, .char _, .char _, _, _ => exact congrArg Atom.char (Std.LawfulEqOrd.eq_of_compare same)
  | .int _, .int _, .int _, _, _ => exact congrArg Atom.int (Std.LawfulEqOrd.eq_of_compare same)
  | .string, .string _, .string _, _, _ =>
      exact congrArg Atom.string (Std.LawfulEqOrd.eq_of_compare same)

variable (schema : Schema) (key : AtomType) (item : Ty)

theorem convert_entry_ok_iff (entry : String × Value) (converted : Atom × Datum) :
    convertEntry schema key item entry = .ok converted ↔
      Atom.ofValue key (.string entry.1) = .ok converted.1 ∧
        convert schema entry.2 item = .ok converted.2 := by
  rw [convertEntry]
  cases Atom.ofValue key (.string entry.1) with
  | error error => exact iff_of_false nofun nofun
  | ok atom =>
      cases convert schema entry.2 item with
      | error error => exact iff_of_false nofun nofun
      | ok datum =>
          obtain ⟨converted, value⟩ := converted
          simp [bind, Except.bind, pure, Except.pure]

theorem of_value_has (value : Value) (atom : Atom) (ok : Atom.ofValue key value = .ok atom) :
    key.Has atom := by
  cases key with
  | bool =>
      rw [Atom.ofValue] at ok
      cases read : Atom.boolOfValue value <;> rw [read] at ok <;> cases ok
      trivial
  | char =>
      rw [Atom.ofValue] at ok
      cases read : Atom.charOfValue value <;> rw [read] at ok <;> cases ok
      trivial
  | int kind =>
      rw [Atom.ofValue] at ok
      cases read : Atom.intOfValue kind value <;> rw [read] at ok <;> cases ok
      exact ((Atom.int_ok_iff kind value _).mp read).2.1
  | string =>
      cases ok
      trivial

/-- Entries whose keys convert to one key have values that convert to one datum. -/
def Coherent (entries : Dict Value) : Prop :=
  ∀ first ∈ entries, ∀ second ∈ entries,
    Atom.ofValue key (.string first.1) = Atom.ofValue key (.string second.1) →
      convert schema first.2 item = convert schema second.2 item

/-- A key that is spelled as the map itself would show it. -/
def AtomType.Shows (type : AtomType) (name : String) : Prop :=
  ∃ atom, type.Has atom ∧ atom.text = name

variable {schema key item}

theorem plain_key_shown (plain : key = .char ∨ key = .string) (name : String) (atom : Atom)
    (ok : Atom.ofValue key (.string name) = .ok atom) : key.Shows name := by
  refine ⟨atom, of_value_has key _ atom ok, ?_⟩
  rcases plain with rfl | rfl
  · rw [Atom.ofValue] at ok
    cases read : Atom.charOfValue (.string name) <;> rw [read] at ok <;> cases ok
    rw [Atom.charOfValue] at read
    split at read
    · rename_i only spelled
      cases read
      exact (congrArg String.ofList spelled).symm.trans String.ofList_toList
    · cases read
  · cases ok
    rfl

theorem coherent_of_shown (entries : Dict Value) (distinct : Dict.Distinct entries)
    (shown : ∀ entry ∈ entries, key.Shows entry.1) : Coherent schema key item entries := by
  rintro ⟨name, value⟩ here ⟨other, found⟩ there same
  obtain ⟨one, has, rfl⟩ := shown _ here
  obtain ⟨two, hasToo, rfl⟩ := shown _ there
  rw [Atom.of_text key one has, Atom.of_text key two hasToo, Except.ok.injEq] at same
  subst same
  have first := Dict.find_of_mem entries one.text value distinct here
  rw [Dict.find_of_mem entries one.text found distinct there, Option.some.injEq] at first
  rw [first]

section Conversion

variable (entries : Dict Value) (converted : List (Atom × Datum))
  (ok : inOrder (entries.map (convertEntry schema key item)) = .ok converted)

include ok

theorem converted_has : ∀ entry ∈ converted, key.Has entry.1 := by
  intro entry member
  obtain ⟨given, _, read⟩ := (in_order_mem_iff _ entries converted ok entry).mp member
  rw [convert_entry_ok_iff] at read
  exact of_value_has key _ entry.1 read.1

theorem converted_lawful : ∀ first ∈ converted, ∀ second ∈ converted,
    key.order first.1 second.1 = .eq → first.1 = second.1 := fun first here second there same =>
  key.eq_of_order first.1 second.1 (converted_has entries converted ok first here)
    (converted_has entries converted ok second there) same

theorem arranged_typed :
    MapOrder.ascending.arrange converted = orderedBy key.order converted := by
  refine orderedBy_congr Atom.order key.order converted fun first here second there => ?_
  exact key.order_of_has first.1 second.1 (converted_has entries converted ok first here)
    (converted_has entries converted ok second there)

/-- Entries are coherent exactly where what they convert to is. -/
theorem coherent_iff : Coherent schema key item entries ↔
    ∀ first ∈ converted, ∀ second ∈ converted, first.1 = second.1 → first = second := by
  constructor
  · intro coherent first here second there same
    obtain ⟨one, inside, read⟩ := (in_order_mem_iff _ entries converted ok first).mp here
    obtain ⟨two, within, found⟩ := (in_order_mem_iff _ entries converted ok second).mp there
    rw [convert_entry_ok_iff] at read found
    have values := coherent one inside two within (by rw [read.1, found.1, same])
    rw [read.2, found.2, Except.ok.injEq] at values
    exact Prod.ext same values
  · intro agree one inside two within same
    obtain ⟨first, read⟩ := in_order_each _ entries converted ok one inside
    obtain ⟨second, found⟩ := in_order_each _ entries converted ok two within
    have here := (in_order_mem_iff _ entries converted ok first).mpr ⟨one, inside, read⟩
    have there := (in_order_mem_iff _ entries converted ok second).mpr ⟨two, within, found⟩
    rw [convert_entry_ok_iff] at read found
    rw [read.1, found.1, Except.ok.injEq] at same
    rw [read.2, found.2, agree first here second there same]

end Conversion

theorem sorted_ok_iff (entries : Dict Value) (sorted : List (Atom × Datum)) :
    convert schema (.map entries) (.map .ascending key item) = .ok (.map sorted) ↔
      ∃ converted, inOrder (entries.map (convertEntry schema key item)) = .ok converted ∧
        orderedBy key.order converted = sorted := by
  rw [convert_map]
  cases ok : inOrder (entries.map (convertEntry schema key item)) with
  | error error =>
      refine iff_of_false nofun ?_
      rintro ⟨_, ⟨⟩, _⟩
  | ok converted =>
      simp [Except.map, arranged_typed entries converted ok]

-- The order is the one that has the entry last.
theorem stays_in_some_order (entries : Dict Value) (entry : String × Value)
    (member : entry ∈ entries) (converted : Atom × Datum)
    (read : convertEntry schema key item entry = .ok converted) :
    ∃ others, entries.Perm others ∧ ∀ sorted,
      convert schema (.map others) (.map .ascending key item) = .ok (.map sorted) →
        converted ∈ sorted := by
  obtain ⟨before, after, rfl⟩ := List.append_of_mem member
  refine ⟨(before ++ after) ++ [entry], ?_, fun sorted ok => ?_⟩
  · exact List.perm_middle.trans (List.perm_append_singleton entry _).symm
  · obtain ⟨results, all, rfl⟩ := (sorted_ok_iff _ sorted).mp ok
    obtain ⟨earlier, rfl⟩ := in_order_last _ _ entry results converted all read
    rw [orderedBy_last]
    exact inserted_mem key.order converted.1 converted.2 _

section AnyOrder

variable (entries : Dict Value) (sorted : List (Atom × Datum))
  (ok : convert schema (.map entries) (.map .ascending key item) = .ok (.map sorted))

include ok

theorem same_keys_in_any_order (others : Dict Value) (perm : entries.Perm others) :
    ∃ other, convert schema (.map others) (.map .ascending key item) = .ok (.map other) ∧
      other.map Prod.fst = sorted.map Prod.fst := by
  obtain ⟨converted, read, rfl⟩ := (sorted_ok_iff entries sorted).mp ok
  obtain ⟨swapped, reread, members⟩ := in_order_perm _ entries others perm converted read
  have lawful := converted_lawful entries converted read
  refine ⟨_, (sorted_ok_iff others _).mpr ⟨swapped, reread, rfl⟩, ?_⟩
  exact (orderedBy_same_keys key.order converted swapped lawful members).symm

theorem same_map_of_coherent (coherent : Coherent schema key item entries) (others : Dict Value)
    (perm : entries.Perm others) :
    convert schema (.map others) (.map .ascending key item) = .ok (.map sorted) := by
  obtain ⟨converted, read, rfl⟩ := (sorted_ok_iff entries sorted).mp ok
  obtain ⟨swapped, reread, members⟩ := in_order_perm _ entries others perm converted read
  have lawful := converted_lawful entries converted read
  refine (sorted_ok_iff others _).mpr ⟨swapped, reread, ?_⟩
  refine (orderedBy_same_members key.order converted swapped ?_ members).symm
  exact fun first here second there same =>
    (coherent_iff entries converted read).mp coherent first here second there
      (lawful first here second there same)

-- Every entry stays in some order, and so in all of them; but a map has no key twice.
theorem coherent_of_same_map (always : ∀ others, entries.Perm others →
    convert schema (.map others) (.map .ascending key item) = .ok (.map sorted)) :
    Coherent schema key item entries := by
  obtain ⟨converted, read, rfl⟩ := (sorted_ok_iff entries sorted).mp ok
  have stays : ∀ entry ∈ converted, entry ∈ orderedBy key.order converted := by
    intro entry member
    obtain ⟨given, inside, here⟩ := (in_order_mem_iff _ entries converted read entry).mp member
    obtain ⟨others, perm, last⟩ := stays_in_some_order entries given inside entry here
    exact last _ (always others perm)
  have apart := ascending_keys_nodup key.order _ (orderedBy_ascending key.order converted)
  refine (coherent_iff entries converted read).mpr fun first here second there same => ?_
  exact List.inj_on_of_nodup_map apart (stays first here) (stays second there) same

theorem shown_of_plain (plain : key = .char ∨ key = .string) :
    ∀ entry ∈ entries, key.Shows entry.1 := by
  intro entry member
  obtain ⟨converted, read, _⟩ := (sorted_ok_iff entries sorted).mp ok
  obtain ⟨result, here⟩ := in_order_each _ entries converted read entry member
  rw [convert_entry_ok_iff] at here
  exact plain_key_shown plain entry.1 result.1 here.1

end AnyOrder

/-- Entries that convert to a sorted map in one order do so in every other, and the map has the same
keys. It is the same map in every order exactly where the entries of each key have one value. This
is so for keys that are characters or strings, and for keys of any type as the map itself spells
them. -/
theorem sorted_map_in_any_order (schema : Schema) (key : AtomType) (item : Ty)
    (entries : Dict Value) (distinct : Dict.Distinct entries) (sorted : List (Atom × Datum))
    (ok : convert schema (.map entries) (.map .ascending key item) = .ok (.map sorted)) :
    (∀ others, entries.Perm others →
        ∃ other, convert schema (.map others) (.map .ascending key item) = .ok (.map other) ∧
          other.map Prod.fst = sorted.map Prod.fst) ∧
      ((∀ others, entries.Perm others →
          convert schema (.map others) (.map .ascending key item) = .ok (.map sorted)) ↔
        Coherent schema key item entries) ∧
      (key = .char ∨ key = .string ∨ (∀ entry ∈ entries, key.Shows entry.1) →
        Coherent schema key item entries) := by
  refine ⟨same_keys_in_any_order entries sorted ok, ⟨?_, ?_⟩, ?_⟩
  · exact coherent_of_same_map entries sorted ok
  · exact same_map_of_coherent entries sorted ok
  · rw [← or_assoc]
    rintro (plain | shown)
    · exact coherent_of_shown entries distinct (shown_of_plain entries sorted ok plain)
    · exact coherent_of_shown entries distinct shown

/-- A sorted map from numbers to flags. -/
def numberedFlags : Ty := .map .ascending (.int .u8) (.atom .bool)

def spelledOnce : Dict Value := [("2", .bool true), ("+1", .bool false)]

theorem sorted_map_in_any_order_numbered :
    Dict.Distinct spelledOnce ∧
      convert (.empty "") (.map spelledOnce) numberedFlags =
        .ok (.map [(.int 1, .atom (.bool false)), (.int 2, .atom (.bool true))]) ∧
      ∃ other, convert (.empty "") (.map spelledOnce.reverse) numberedFlags = .ok (.map other) ∧
        other.map Prod.fst = [.int 1, .int 2] := by
  have distinct : Dict.Distinct spelledOnce := by decide
  have ok : convert (.empty "") (.map spelledOnce) numberedFlags =
      .ok (.map [(.int 1, .atom (.bool false)), (.int 2, .atom (.bool true))]) := rfl
  have orders := sorted_map_in_any_order (.empty "") (.int .u8) (.atom .bool) spelledOnce
    distinct _ ok
  exact ⟨distinct, ok, orders.1 _ (List.reverse_perm _).symm⟩

/-- One number, with a sign in front and without. -/
def spelledTwice : Dict Value := [("1", .bool true), ("+1", .bool false)]

/-- Of two entries with one key the last stays. -/
theorem respelled_key_overwritten :
    Dict.Distinct spelledTwice ∧ spelledTwice.Perm spelledTwice.reverse ∧
      ∃ first last : Bool, first ≠ last ∧
        convert (.empty "") (.map spelledTwice) numberedFlags =
          .ok (.map [(.int 1, .atom (.bool last))]) ∧
        convert (.empty "") (.map spelledTwice.reverse) numberedFlags =
          .ok (.map [(.int 1, .atom (.bool first))]) :=
  ⟨by decide, (List.reverse_perm _).symm, true, false, by decide, rfl, rfl⟩

end MarkupTemplate
