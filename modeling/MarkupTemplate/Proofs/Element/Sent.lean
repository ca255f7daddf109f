import MarkupTemplate.Proofs.Element.RoundTrip
import MarkupTemplate.Proofs.Text.Camel

/-!
Elements as markup carries them. An element drops the attributes that are null, and markup writes
every value but a truth value as text, so this is what arrives. Main statement: an element has the
markup of the element that arrives.
-/

namespace MarkupTemplate

/-- A value as markup carries it. -/
def Value.spelled : Value → Value
  | .null => .null
  | .bool truth => .bool truth
  | value => .string value.display

theorem Value.spelled_display (value : Value) : value.spelled.display = value.display := by
  cases value <;> rfl

theorem Value.spelled_null (value : Value) : value.spelled.isNull = value.isNull := by
  cases value <;> rfl

namespace Element

def spelledAttrs (attrs : Dict Value) : Dict Value :=
  attrs.map fun entry => (entry.1, entry.2.spelled)

mutual

/-- The element with the values of its attributes as markup carries them. -/
def spelled : Element → Element
  | ⟨kind, attrs, children⟩ => ⟨kind, spelledAttrs attrs, spelledAll children⟩

def spelledAll : List Element → List Element
  | [] => []
  | element :: rest => spelled element :: spelledAll rest

end

theorem spelled_all_empty (elements : List Element) :
    (spelledAll elements).isEmpty = elements.isEmpty := by
  cases elements <;> rfl

theorem attrs_markup_spelled (attrs : Dict Value) :
    attrsMarkup (spelledAttrs attrs) = attrsMarkup attrs := by
  have each : ∀ entry : String × Value,
      attrMarkup (entry.1, entry.2.spelled) = attrMarkup entry := by
    rintro ⟨key, value⟩
    cases value <;> rfl
  rw [attrsMarkup, Dict.ascending, spelledAttrs, orderedBy_map_values, List.map_map]
  exact congrArg String.join (List.map_congr_left fun entry _ => each entry)

theorem content_spelled (attrs : Dict Value) :
    contentOf (spelledAttrs attrs) = contentOf attrs := by
  rw [contentOf, spelledAttrs, Dict.find_map_values, contentOf]
  cases Dict.find textKey attrs with
  | none => rfl
  | some content => exact content.spelled_display

mutual

theorem markup_spelled : ∀ element : Element, markup (spelled element) = markup element
  | ⟨kind, attrs, children⟩ => by
      simp only [spelled, markup, attrs_markup_spelled, content_spelled, spelled_all_empty,
        all_markup_spelled children]

theorem all_markup_spelled : ∀ elements : List Element,
    allMarkup (spelledAll elements) = allMarkup elements
  | [] => rfl
  | element :: rest => by
      rw [spelledAll, allMarkup, markup_spelled element, all_markup_spelled rest, allMarkup]

end

/-- Attributes under different keys that an element keeps as they are. -/
structure PlainKeys (attrs : Dict Value) : Prop where
  distinct : Dict.Distinct attrs
  camel : ∀ entry ∈ attrs, camelCase entry.1 = entry.1
  named : ∀ entry ∈ attrs, entry.1 ≠ childrenKey

theorem kept_plain (attrs : Dict Value) (plain : PlainKeys attrs) :
    keptAttrs attrs = attrs.filter fun entry => !entry.2.isNull := by
  have camel : ((attrs.filter fun entry => !entry.2.isNull).map
      fun entry => (camelCase entry.1, entry.2)) = attrs.filter fun entry => !entry.2.isNull := by
    refine (List.map_congr_left fun entry member => ?_).trans (List.map_id _)
    simp only [plain.camel entry (List.mem_filter.mp member).1, id]
  rw [kept_named attrs plain.named, camel,
    Dict.ofList_distinct _ (Dict.distinct_filter _ attrs plain.distinct)]

/-- What arrives of attributes. -/
def sentAttrs (attrs : Dict Value) : Dict Value := spelledAttrs (keptAttrs attrs)

theorem sent_distinct (attrs : Dict Value) (plain : PlainKeys attrs) :
    Dict.Distinct (sentAttrs attrs) := by
  rw [sentAttrs, spelledAttrs, Dict.Distinct, Dict.keys_map_values, kept_plain attrs plain]
  exact Dict.distinct_filter _ attrs plain.distinct

theorem spelled_written (value : Value) (present : value.isNull = false) :
    IsWritten value.spelled := by
  cases value with
  | null => cases present
  | bool truth => exact Or.inr ⟨truth, rfl⟩
  | int | float | string | list | map | record => exact Or.inl ⟨_, rfl⟩

/-- Every entry that arrives stood there with a value. -/
theorem mem_sent (attrs : Dict Value) (plain : PlainKeys attrs) (entry : String × Value)
    (member : entry ∈ sentAttrs attrs) :
    ∃ source ∈ attrs, entry.1 = source.1 ∧ IsWritten entry.2 := by
  rw [sentAttrs, spelledAttrs, kept_plain attrs plain] at member
  obtain ⟨source, inside, rfl⟩ := List.mem_map.mp member
  obtain ⟨present, filled⟩ := List.mem_filter.mp inside
  exact ⟨source, present, rfl, spelled_written source.2 (by simpa using filled)⟩

/-- Under a key arrives what stands there, unless it is null. -/
theorem find_sent (attrs : Dict Value) (plain : PlainKeys attrs) (key : String) :
    Dict.find key (Dict.ascending (sentAttrs attrs)) =
      ((Dict.find key attrs).filter fun value => !value.isNull).map Value.spelled := by
  have distinct := sent_distinct attrs plain
  rw [← Dict.find_of_perm _ _ distinct (Dict.ascending_perm _ distinct).symm key, sentAttrs,
    spelledAttrs, Dict.find_map_values, kept_plain attrs plain,
    Dict.find_filter (fun value => !value.isNull) key attrs plain.distinct]

end Element

end MarkupTemplate
