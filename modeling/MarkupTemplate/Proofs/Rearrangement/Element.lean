import MarkupTemplate.Element.Markup
import MarkupTemplate.Proofs.Rearrangement.Value
import MarkupTemplate.Template.Attribute

/-!
Elements whose attributes hold rearranged values. They have one shape: the same kinds, the same
keys in the same places and as many children. Reading attributes and building elements keeps this,
and neither the markup nor the plain text of elements shows the difference.
-/

namespace MarkupTemplate

/-- The same key, with a rearranged value. -/
structure EntryRearranged (left right : String × Value) : Prop where
  key : left.1 = right.1
  value : Value.Rearranged left.2 right.2

abbrev EntriesRearranged : Dict Value → Dict Value → Prop := List.Forall₂ EntryRearranged

namespace EntriesRearranged

variable {left right : Dict Value}

theorem same (entries : Dict Value) : EntriesRearranged entries entries :=
  List.forall₂_same.mpr fun entry _ => ⟨rfl, .same entry.2⟩

theorem find (entries : EntriesRearranged left right) (key : String) :
    Option.Rel Value.Rearranged (Dict.find key left) (Dict.find key right) := by
  induction entries with
  | nil => exact .none
  | @cons first second _ _ head _ ih =>
      obtain ⟨name, value⟩ := first
      obtain ⟨other, held⟩ := second
      obtain ⟨rfl, values⟩ := head
      rw [Dict.find, Dict.find]
      by_cases found : name = key
      · simp only [found, ↓reduceIte]
        exact .some values
      · simp only [found, ↓reduceIte]
        exact ih

theorem keys (entries : EntriesRearranged left right) : Dict.keys left = Dict.keys right :=
  Value.map_alike _ _ left right (List.Forall₂.imp (fun _ _ entry => entry.key) entries)

/-- Rearranging the values of a map rearranges it. -/
theorem map (entries : EntriesRearranged left right) (distinct : Dict.Distinct left) :
    Value.Rearranged (.map left) (.map right) := by
  refine .map left right distinct (.of_eq entries.keys) ?_
  intro key first second onLeft onRight
  have found := entries.find key
  rw [onLeft, onRight] at found
  cases found with
  | some values => exact values

theorem insert (entries : EntriesRearranged left right) (key : String) {value other : Value}
    (values : Value.Rearranged value other) :
    EntriesRearranged (Dict.insert key value left) (Dict.insert key other right) := by
  induction entries with
  | nil => exact .cons ⟨rfl, values⟩ .nil
  | @cons first second _ _ head tail ih =>
      obtain ⟨name, held⟩ := first
      obtain ⟨_, kept⟩ := second
      obtain ⟨rfl, same⟩ := head
      rw [Dict.insert, Dict.insert]
      by_cases present : name = key
      · simp only [present, ↓reduceIte]
        exact .cons ⟨rfl, values⟩ tail
      · simp only [present, ↓reduceIte]
        exact .cons ⟨rfl, same⟩ ih

theorem erase (entries : EntriesRearranged left right) (key : String) :
    EntriesRearranged (Dict.erase key left) (Dict.erase key right) := by
  induction entries with
  | nil => exact .nil
  | @cons first second _ _ head tail ih =>
      obtain ⟨name, held⟩ := first
      obtain ⟨_, kept⟩ := second
      obtain ⟨rfl, same⟩ := head
      rw [Dict.erase, Dict.erase]
      by_cases present : name = key
      · simp only [present, ↓reduceIte]
        exact tail
      · simp only [present, ↓reduceIte]
        exact .cons ⟨rfl, same⟩ ih

theorem insertOrdered (entries : EntriesRearranged left right) (key : String)
    {value other : Value} (values : Value.Rearranged value other) :
    EntriesRearranged (MarkupTemplate.insertOrdered compare key value left)
      (MarkupTemplate.insertOrdered compare key other right) := by
  induction entries with
  | nil => exact .cons ⟨rfl, values⟩ .nil
  | @cons first second _ _ head tail ih =>
      obtain ⟨name, held⟩ := first
      obtain ⟨_, kept⟩ := second
      obtain ⟨rfl, same⟩ := head
      rw [MarkupTemplate.insertOrdered, MarkupTemplate.insertOrdered]
      cases compare key name with
      | lt => exact .cons ⟨rfl, values⟩ (.cons ⟨rfl, same⟩ tail)
      | eq => exact .cons ⟨rfl, values⟩ tail
      | gt => exact .cons ⟨rfl, same⟩ ih

theorem ofList (entries : EntriesRearranged left right) :
    EntriesRearranged (Dict.ofList left) (Dict.ofList right) := by
  refine List.rel_foldl ?_ .nil entries
  rintro base others bases ⟨key, value⟩ ⟨_, other⟩ ⟨rfl, values⟩
  exact insert bases key values

theorem ascending (entries : EntriesRearranged left right) :
    EntriesRearranged (Dict.ascending left) (Dict.ascending right) := by
  refine List.rel_foldl ?_ .nil entries
  rintro base others bases ⟨key, value⟩ ⟨_, other⟩ ⟨rfl, values⟩
  exact insertOrdered bases key values

end EntriesRearranged

theorem read_attrs_rearranged (templated : Bool) (left right : String → Value)
    (values : ∀ text, Value.Rearranged (left text) (right text)) (extra : String) :
    EntriesRearranged (readAttrs templated left extra) (readAttrs templated right extra) := by
  apply EntriesRearranged.ofList
  rw [EntriesRearranged, List.forall₂_map_left_iff, List.forall₂_map_right_iff, List.forall₂_same]
  rintro ⟨key, given⟩ _
  cases given with
  | bare =>
      -- A bare key is read without any expression.
      change EntryRearranged (Given.entry right key .bare) (Given.entry right key .bare)
      exact ⟨rfl, .same _⟩
  | quoted text => exact ⟨rfl, .same _⟩
  | expression text => exact ⟨rfl, values _⟩

namespace Element

/-- The same kind, and rearranged values under the same keys, here and in the children. -/
inductive Rearranged : Element → Element → Prop where
  | node (kind : String) (leftAttrs rightAttrs : Dict Value) (left right : List Element)
      (attrs : EntriesRearranged leftAttrs rightAttrs)
      (children : List.Forall₂ Rearranged left right) :
      Rearranged ⟨kind, leftAttrs, left⟩ ⟨kind, rightAttrs, right⟩

mutual

theorem rearranged_same : (element : Element) → Rearranged element element
  | ⟨kind, attrs, children⟩ =>
      .node kind attrs attrs children children (.same attrs) (all_rearranged_same children)

theorem all_rearranged_same : (elements : List Element) → List.Forall₂ Rearranged elements elements
  | [] => .nil
  | element :: rest => .cons (rearranged_same element) (all_rearranged_same rest)

end

theorem of_scalar_rearranged {left right : Value} (values : left.Rearranged right) :
    ofScalar? left = ofScalar? right := by
  cases values <;> rfl

theorem of_items_rearranged {left right : List Value}
    (items : List.Forall₂ Value.Rearranged left right) :
    left.filterMap ofScalar? = right.filterMap ofScalar? := by
  induction items with
  | nil => rfl
  | cons head _ ih => rw [List.filterMap_cons, List.filterMap_cons, of_scalar_rearranged head, ih]

theorem of_value_rearranged {left right : Value} (values : left.Rearranged right) :
    ofValue left = ofValue right := by
  cases values with
  | same => rfl
  | list left right lengths items =>
      exact of_items_rearranged (List.forall₂_iff_get.mpr ⟨lengths, items⟩)
  | map => rfl

section

variable {left right : Dict Value} (attrs : EntriesRearranged left right)

include attrs

theorem kept_attrs_rearranged : EntriesRearranged (keptAttrs left) (keptAttrs right) := by
  apply EntriesRearranged.ofList
  rw [EntriesRearranged, List.forall₂_map_left_iff, List.forall₂_map_right_iff]
  refine List.Forall₂.imp ?_ (List.rel_filter ?_ attrs)
  · exact fun first second entry => ⟨congrArg camelCase entry.key, entry.value⟩
  · intro first second entry
    simp only [entry.key, entry.value.isNull]

theorem attr_children_rearranged : attrChildren left = attrChildren right := by
  induction attrs with
  | nil => rfl
  | @cons first second before behind head _ ih =>
      rw [attrChildren, attrChildren, List.filter_cons, List.filter_cons, head.key]
      by_cases named : second.1 == childrenKey
      · simp only [named, ↓reduceIte, List.flatMap_cons, of_value_rearranged head.value]
        exact congrArg (ofValue second.2 ++ ·) ih
      · simp only [named, Bool.false_eq_true, ↓reduceIte]
        exact ih

theorem with_content_rearranged : EntriesRearranged (withContent left) (withContent right) := by
  have found := attrs.find contentKey
  rw [withContent, withContent]
  generalize Dict.find contentKey left = first, Dict.find contentKey right = second at found
  cases found with
  | some values => exact (attrs.erase contentKey).insert textKey values
  | none =>
      cases attrs with
      | nil => exact .same _
      | cons head tail => exact .cons head tail

theorem new_rearranged (kind : String) {children others : List Element}
    (nodes : List.Forall₂ Rearranged children others) :
    Rearranged (new kind left children) (new kind right others) := by
  have kept := kept_attrs_rearranged attrs
  rw [new, new, attr_children_rearranged attrs]
  refine .node kind _ _ _ _ ?_ (List.rel_append (all_rearranged_same _) nodes)
  by_cases text : kind = textKind
  · simp only [text, ↓reduceIte]
    exact with_content_rearranged kept
  · simp only [text, ↓reduceIte]
    exact kept

theorem content_rearranged : contentOf left = contentOf right := by
  have found := attrs.find textKey
  rw [contentOf, contentOf]
  generalize Dict.find textKey left = first, Dict.find textKey right = second at found
  cases found with
  | none => rfl
  | some values => exact values.display

omit attrs in
theorem attr_markup_rearranged (left right : String × Value) (entry : EntryRearranged left right) :
    attrMarkup left = attrMarkup right := by
  obtain ⟨key, value⟩ := left
  obtain ⟨_, other⟩ := right
  obtain ⟨rfl, values⟩ := entry
  have shown : value.display = other.display := values.display
  cases values with
  | same => rfl
  | list => simp only [attrMarkup, shown]
  | map => simp only [attrMarkup, shown]

theorem attrs_markup_rearranged : attrsMarkup left = attrsMarkup right := by
  have written := List.Forall₂.imp attr_markup_rearranged attrs.ascending
  exact congrArg String.join (Value.map_alike attrMarkup attrMarkup _ _ written)

end

mutual

theorem markup_rearranged :
    (left right : Element) → Rearranged left right → markup left = markup right
  | ⟨kind, attrs, children⟩, right, rearranged => by
      cases rearranged with
      | node _ _ others _ nodes entries more =>
          have empty : children.isEmpty = nodes.isEmpty := by cases more <;> rfl
          rw [markup, markup, content_rearranged entries, attrs_markup_rearranged entries, empty,
            all_markup_rearranged children nodes more]

theorem all_markup_rearranged : (left right : List Element) → List.Forall₂ Rearranged left right →
    allMarkup left = allMarkup right
  | [], _, .nil => rfl
  | _ :: _, _, .cons head tail => by
      rw [allMarkup, allMarkup, markup_rearranged _ _ head, all_markup_rearranged _ _ tail]

end

mutual

theorem plain_text_rearranged :
    (left right : Element) → Rearranged left right → plainText left = plainText right
  | ⟨kind, attrs, children⟩, right, rearranged => by
      cases rearranged with
      | node _ _ others _ nodes entries more =>
          rw [plainText, plainText, content_rearranged entries,
            all_plain_text_rearranged children nodes more]

theorem all_plain_text_rearranged : (left right : List Element) →
    List.Forall₂ Rearranged left right → allPlainText left = allPlainText right
  | [], _, .nil => rfl
  | _ :: _, _, .cons head tail => by
      rw [allPlainText, allPlainText, plain_text_rearranged _ _ head,
        all_plain_text_rearranged _ _ tail]

end

end Element

end MarkupTemplate
