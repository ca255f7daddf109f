import MarkupTemplate.Binding.Record
import MarkupTemplate.Proofs.Text.Numeral

/-!
The data of a type. Every atom is read back from the value that it is shown as, as long as its
integer fits into a value, and from its text in any case; so no two keys of a map have the same
text. Main statement: arranging the entries of a map only reorders them, and leaves them alone where
the map has an order of its own.
-/

namespace MarkupTemplate

/-- The atoms of a type. -/
def AtomType.Has : AtomType → Atom → Prop
  | .bool, .bool _ => True
  | .char, .char _ => True
  | .int kind, .int number => kind.least ≤ number ∧ number ≤ kind.greatest
  | .string, .string _ => True
  | _, _ => False

/-- An integer is shown exactly where it fits into the 64 bits of a value. -/
def Atom.Exact : Atom → Prop
  | .int number => Value.fitsInt64 number = true
  | _ => True

/-- No key occurs twice, and keys that a map sorts are ascending. The keys of a map that goes by
their texts come in any order. -/
def MapOrder.Keeps : MapOrder → List Atom → Prop
  | .ascending, keys => keys.Pairwise fun key later => Atom.order key later = .lt
  | .text, keys | .insertion, keys => keys.Nodup

/-- The data of a type of which every integer is shown exactly; the keys of a map are shown as texts
and may be any. Types that lose something when they are shown have none. -/
def Ty.Has : Ty → Datum → Prop
  | .atom type, .atom content => type.Has content ∧ content.Exact
  | .float64, .float _ => True
  | .value, .value _ => True
  | .option _, .absent => True
  | .option item, .present datum => item.Has datum
  | .boxed item, datum => item.Has datum
  | .list item, .list items => ∀ datum ∈ items, item.Has datum
  | .map order key item, .map entries =>
      order.Keeps (entries.map Prod.fst) ∧ ∀ entry ∈ entries, key.Has entry.1 ∧ item.Has entry.2
  | _, _ => False

namespace Atom

theorem wide_of_text (number : Int) (wide : leastWide ≤ number ∧ number ≤ greatestWide) :
    wideOfText (String.ofList (intText number)) = some number := by
  rw [wideOfText, String.toList_ofList, read_int_text, Option.filter_some,
    if_pos (decide_eq_true wide)]

theorem int_of_wide (kind : IntKind) (value : Value) (number : Int)
    (has : kind.least ≤ number ∧ number ≤ kind.greatest) (plain : isNegativeFloat value = false)
    (read : wideOfValue kind.name value = .ok number) : intOfValue kind value = .ok number := by
  have counted : ¬ (number < 0 ∧ kind.signed = false) := by
    rintro ⟨negative, unsigned⟩
    have least : kind.least = 0 := if_neg (by simp [unsigned])
    omega
  rw [intOfValue, plain, Bool.and_false, if_neg Bool.false_ne_true, read]
  change (if number < 0 ∧ kind.signed = false then _ else _) = _
  rw [if_neg counted, if_pos has]

theorem kind_within_wide (kind : IntKind) :
    leastWide < kind.least ∧ kind.greatest < greatestWide := by
  cases kind <;> decide

/-- An atom is read back from its text. -/
theorem of_text (type : AtomType) (atom : Atom) (has : type.Has atom) :
    ofValue type (.string atom.text) = .ok atom := by
  cases type with
  | bool =>
      cases atom with
      | bool truth => cases truth <;> rfl
      | char | int | string => cases has
  | char =>
      cases atom with
      | char c => simp [ofValue, charOfValue, text, Except.map]
      | bool | int | string => cases has
  | int kind =>
      cases atom with
      | int number =>
          obtain ⟨least, greatest⟩ := kind_within_wide kind
          have wide := wide_of_text number
            ⟨Int.le_of_lt (Int.lt_of_lt_of_le least has.1),
              Int.le_of_lt (Int.lt_of_le_of_lt has.2 greatest)⟩
          have read := int_of_wide kind (.string (text (.int number))) number has rfl
            (by simp only [wideOfValue, text, wide])
          simp only [ofValue, read, Except.map]
      | bool | char | string => cases has
  | string =>
      cases atom with
      | string content => rfl
      | bool | char | int => cases has

theorem int_shown (number : Int) (exact : (int number).Exact) :
    toValue (.int number) = .int (Int64.ofInt number) ∧ (Int64.ofInt number).toInt = number := by
  have fits : -2 ^ 63 ≤ number ∧ number < 2 ^ 63 := of_decide_eq_true exact
  exact ⟨if_pos exact, Int64.toInt_ofInt_of_le fits.1 fits.2⟩

theorem shown_not_null (atom : Atom) (exact : atom.Exact) : atom.toValue.isNull = false := by
  cases atom with
  | int number =>
      rw [(int_shown number exact).1]
      rfl
  | bool | char | string => rfl

/-- An atom that is shown exactly is read back from what it is shown as. -/
theorem of_shown (type : AtomType) (atom : Atom) (has : type.Has atom) (exact : atom.Exact) :
    ofValue type atom.toValue = .ok atom := by
  cases type with
  | bool =>
      cases atom with
      | bool truth => rfl
      | char | int | string => cases has
  | char =>
      cases atom with
      | char c => simp [ofValue, charOfValue, toValue, Except.map]
      | bool | int | string => cases has
  | int kind =>
      cases atom with
      | int number =>
          obtain ⟨shown, same⟩ := int_shown number exact
          have read := int_of_wide kind (.int (Int64.ofInt number)) number has rfl
            (congrArg Except.ok same)
          simp only [ofValue, shown, read, Except.map]
      | bool | char | string => cases has
  | string =>
      cases atom with
      | string content => rfl
      | bool | char | int => cases has

theorem text_injective (type : AtomType) (left right : Atom) (first : type.Has left)
    (second : type.Has right) (same : left.text = right.text) : left = right := by
  have read := of_text type left first
  rw [same, of_text type right second] at read
  exact (Except.ok.inj read).symm

instance : Std.OrientedCmp order where
  eq_swap {left right} := by
    cases left <;> cases right <;> exact Std.OrientedOrd.eq_swap

instance : Std.OrientedCmp orderByText where
  eq_swap := Std.OrientedOrd.eq_swap

end Atom

namespace MapOrder

theorem keeps_nodup (order : MapOrder) (keys : List Atom) (keeps : order.Keeps keys) :
    keys.Nodup := by
  cases order with
  | text => exact keeps
  | ascending =>
      refine List.Pairwise.imp ?_ keeps
      intro key later less same
      have self : Atom.order later later = .eq := Std.ReflCmp.compare_self
      rw [same, self] at less
      cases less
  | insertion => exact keeps

theorem texts_nodup (type : AtomType) (keys : List Atom) (nodup : keys.Nodup)
    (has : ∀ key ∈ keys, type.Has key) : (keys.map Atom.text).Nodup := by
  refine List.pairwise_map.mpr (nodup.imp_of_mem ?_)
  intro key later first second unequal same
  exact unequal (Atom.text_injective type key later (has key first) (has later second) same)

theorem replace_absent (entry : Atom × Datum) (kept : List (Atom × Datum))
    (absent : entry.1 ∉ kept.map Prod.fst) :
    arrange.replaceOrAppend entry kept = kept ++ [entry] := by
  induction kept with
  | nil => rfl
  | cons first rest ih =>
      obtain ⟨key, datum⟩ := first
      simp only [List.map_cons, List.mem_cons, not_or] at absent
      rw [arrange.replaceOrAppend, if_neg (Ne.symm absent.1), ih absent.2, List.cons_append]

theorem append_all_distinct (entries kept : List (Atom × Datum))
    (nodup : ((kept ++ entries).map Prod.fst).Nodup) :
    entries.foldl (fun kept entry => arrange.replaceOrAppend entry kept) kept =
      kept ++ entries := by
  induction entries generalizing kept with
  | nil => exact (List.append_nil kept).symm
  | cons entry rest ih =>
      have absent : entry.1 ∉ kept.map Prod.fst := by
        rw [List.map_append, List.map_cons] at nodup
        exact fun member => (List.nodup_append.mp nodup).2.2 _ member _ List.mem_cons_self rfl
      rw [List.foldl_cons, replace_absent entry kept absent, ih _ (by simpa using nodup),
        List.append_assoc, List.singleton_append]

/-- The same entries: in one order, or in any where the map goes by the texts of its keys. -/
def Lists : MapOrder → List (Atom × Datum) → List (Atom × Datum) → Prop
  | .text, entries, listed => entries.Perm listed
  | .ascending, entries, listed | .insertion, entries, listed => entries = listed

/-- Entries that a map may hold are only listed anew when they are arranged. -/
theorem arrange_lists (order : MapOrder) (type : AtomType) (entries : List (Atom × Datum))
    (keeps : order.Keeps (entries.map Prod.fst))
    (has : ∀ key ∈ entries.map Prod.fst, type.Has key) :
    order.Lists (order.arrange entries) entries := by
  cases order with
  | text =>
      have texts := texts_nodup type _ keeps has
      rw [List.map_map] at texts
      refine orderedBy_perm Atom.orderByText entries ((List.pairwise_map.mp texts).imp ?_)
      exact fun unequal equal => unequal (Std.LawfulEqOrd.eq_of_compare equal)
  | ascending => exact orderedBy_sorted Atom.order entries (List.pairwise_map.mp keeps)
  | insertion => exact append_all_distinct entries [] keeps

end MapOrder

end MarkupTemplate
