import MarkupTemplate.Proofs.Element.Sent

/-!
The normal form of elements. Building an element renames and drops attributes, turns one of them
into children and moves the content of a text, and a later attribute overwrites an earlier one of
its new name. Main statements: what is built has the normal form, whatever it is built from, and an
element in normal form is built again from its own parts.
-/

namespace MarkupTemplate.Element

/-- Keys in camel case, none of them for children and none twice, and no value that is null; a text
has an attribute, and it has none for its content under the other name. -/
structure Normal (element : Element) : Prop where
  keys : PlainKeys element.attrs
  present : ∀ entry ∈ element.attrs, entry.2 ≠ .null
  moved : element.kind = textKind → contentKey ∉ Dict.keys element.attrs
  filled : element.kind = textKind → element.attrs ≠ []

/-- Every attribute that is kept was given, with a value and under a key that it is named for. -/
theorem mem_kept (attrs : List (String × Value)) (entry : String × Value)
    (member : entry ∈ keptAttrs attrs) :
    ∃ given ∈ attrs, given.2.isNull = false ∧ given.1 ≠ childrenKey ∧
      entry = (camelCase given.1, given.2) := by
  obtain ⟨given, inside, rfl⟩ := List.mem_map.mp (Dict.mem_ofList _ entry member)
  obtain ⟨source, kept⟩ := List.mem_filter.mp inside
  simp only [Bool.and_eq_true, Bool.not_eq_true', bne_iff_ne] at kept
  exact ⟨given, source, kept.1, kept.2, rfl⟩

theorem camel_not_children (name : String) (other : name ≠ childrenKey) :
    camelCase name ≠ childrenKey := by
  intro same
  have small : ∀ c ∈ childrenKey.toList, c.isUpper = false := by simp [childrenKey]
  exact other (camel_small name childrenKey small same)

theorem kept_keys (attrs : List (String × Value)) : PlainKeys (keptAttrs attrs) := by
  constructor
  · exact Dict.distinct_ofList _
  · intro entry member
    obtain ⟨given, _, _, _, rfl⟩ := mem_kept attrs entry member
    exact camel_camel given.1
  · intro entry member
    obtain ⟨given, _, _, other, rfl⟩ := mem_kept attrs entry member
    exact camel_not_children given.1 other

theorem kept_present (attrs : List (String × Value)) :
    ∀ entry ∈ keptAttrs attrs, entry.2 ≠ .null := by
  intro entry member
  obtain ⟨given, _, present, _, rfl⟩ := mem_kept attrs entry member
  rintro null
  rw [null] at present
  cases present

theorem text_key_kept :
    camelCase textKey = textKey ∧ textKey ≠ childrenKey ∧ contentKey ≠ textKey := by
  decide

/-- The content of a text, written under its own key, keeps what the other attributes have. -/
theorem written_normal (kind : String) (attrs : Dict Value) (children : List Element)
    (content : Value) (plain : PlainKeys attrs) (present : ∀ entry ∈ attrs, entry.2 ≠ .null)
    (moved : contentKey ∉ Dict.keys attrs) (filled : content ≠ .null) :
    Normal ⟨kind, Dict.insert textKey content attrs, children⟩ := by
  have cases := Dict.mem_insert textKey content attrs
  constructor
  · constructor
    · exact Dict.distinct_insert textKey content attrs plain.distinct
    · intro entry member
      rcases cases entry member with rfl | before
      · exact text_key_kept.1
      · exact plain.camel entry before
    · intro entry member
      rcases cases entry member with rfl | before
      · exact text_key_kept.2.1
      · exact plain.named entry before
  · intro entry member
    rcases cases entry member with rfl | before
    · exact filled
    · exact present entry before
  · intro _ member
    rcases (Dict.mem_keys_insert textKey contentKey content attrs).mp member with same | before
    · exact text_key_kept.2.2 same
    · exact moved before
  · intro _
    exact Dict.insert_filled textKey content attrs

theorem no_plain_keys : PlainKeys [] := ⟨List.nodup_nil, nofun, nofun⟩

theorem erased_plain_keys (key : String) (attrs : Dict Value) (plain : PlainKeys attrs) :
    PlainKeys (Dict.erase key attrs) := by
  have rest := Dict.erase_sublist key attrs
  constructor
  · exact Dict.distinct_erase key attrs plain.distinct
  · intro entry member
    exact plain.camel entry (rest.subset member)
  · intro entry member
    exact plain.named entry (rest.subset member)

/-- A text made of its content is one that is written into no attributes. -/
theorem text_normal (content : String) : (ofText content).Normal :=
  written_normal textKind [] [] (.string content) no_plain_keys nofun List.not_mem_nil nofun

theorem with_content_normal (kind : String) (attrs : Dict Value) (children : List Element)
    (plain : PlainKeys attrs) (present : ∀ entry ∈ attrs, entry.2 ≠ .null) :
    Normal ⟨kind, withContent attrs, children⟩ := by
  rw [withContent]
  cases found : Dict.find contentKey attrs with
  | some content =>
      apply written_normal
      · exact erased_plain_keys contentKey attrs plain
      · intro entry member
        exact present entry ((Dict.erase_sublist contentKey attrs).subset member)
      · exact Dict.erased_absent contentKey attrs plain.distinct
      · exact present _ (Dict.mem_of_find attrs contentKey content found)
  | none =>
      by_cases empty : attrs.isEmpty = true
      · simp only [empty, ↓reduceIte]
        exact written_normal kind [] children (.string "") no_plain_keys nofun List.not_mem_nil
          nofun
      · simp only [empty]
        constructor
        · exact plain
        · exact present
        · intro _
          exact (Dict.find_none_iff attrs contentKey).mp found
        · rintro _ rfl
          exact empty rfl

/-- Every element that is built has the normal form. -/
theorem new_normal (kind : String) (attrs : List (String × Value)) (children : List Element) :
    (new kind attrs children).Normal := by
  have plain := kept_keys attrs
  have present := kept_present attrs
  rw [new]
  by_cases text : kind = textKind
  · simp only [if_pos text]
    exact with_content_normal kind _ _ plain present
  · simp only [if_neg text]
    exact ⟨plain, present, fun same => absurd same text, fun same => absurd same text⟩

theorem kept_normal (element : Element) (normal : element.Normal) :
    keptAttrs element.attrs = element.attrs := by
  rw [kept_plain element.attrs normal.keys, List.filter_eq_self]
  intro entry member
  cases null : entry.2 with
  | null => exact absurd null (normal.present entry member)
  | bool | int | float | string | list | map | record => rfl

theorem content_kept (attrs : Dict Value) (moved : contentKey ∉ Dict.keys attrs)
    (filled : attrs ≠ []) : withContent attrs = attrs := by
  have none := (Dict.find_none_iff attrs contentKey).mpr moved
  rw [withContent, none]
  cases attrs with
  | nil => exact absurd rfl filled
  | cons => rfl

/-- An element in normal form is built again from what it shows of itself. -/
theorem normal_rebuilt (element : Element) (normal : element.Normal) :
    new element.kind element.attrs element.children = element := by
  have kept := kept_normal element normal
  have added := no_attr_children element.attrs normal.keys.named
  obtain ⟨kind, attrs, children⟩ := element
  simp only [new, kept, added, List.nil_append]
  by_cases text : kind = textKind
  · rw [if_pos text, content_kept attrs (normal.moved text) (normal.filled text)]
  · rw [if_neg text]

end MarkupTemplate.Element
