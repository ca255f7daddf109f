import MarkupTemplate.Binding.Convert

/-!
Conversion, layer by layer. What a value converts to depends on its own type and on what its
parts convert to, and a list or a map is converted part by part.
-/

namespace MarkupTemplate

variable (schema : Schema)

theorem convert_parts (value : Value) :
    ∃ items sources, convert schema value = Source.ofParts schema value items sources := by
  cases value with
  | list items => exact ⟨itemSources schema items, [], rfl⟩
  | map entries => exact ⟨[], entrySources schema entries, rfl⟩
  | record shape fields answers => exact ⟨[], entrySources schema fields, rfl⟩
  | null | bool | int | float | string => exact ⟨[], [], rfl⟩

theorem convert_atom (value : Value) (type : AtomType) :
    convert schema value (.atom type) = (Atom.ofValue type value).map .atom := by
  obtain ⟨items, sources, parts⟩ := convert_parts schema value
  rw [parts]
  rfl

theorem convert_value (value : Value) : convert schema value .value = .ok (.value value) := by
  obtain ⟨items, sources, parts⟩ := convert_parts schema value
  rw [parts]
  rfl

theorem convert_option (value : Value) (item : Ty) :
    convert schema value (.option item) =
      if value.isNull then .ok .absent else (convert schema value item).map .present := by
  obtain ⟨items, sources, parts⟩ := convert_parts schema value
  rw [parts]
  rfl

theorem convert_boxed (value : Value) (item : Ty) :
    convert schema value (.boxed item) = convert schema value item := by
  obtain ⟨items, sources, parts⟩ := convert_parts schema value
  rw [parts]
  rfl

theorem item_sources_map (items : List Value) :
    itemSources schema items = items.map (convert schema) := by
  induction items with
  | nil => rfl
  | cons item rest ih => rw [itemSources, ih, List.map_cons]

theorem entry_sources_map (entries : List (String × Value)) :
    entrySources schema entries = entries.map fun entry => (entry.1, convert schema entry.2) := by
  induction entries with
  | nil => rfl
  | cons entry rest ih => rw [entrySources, ih, List.map_cons]

theorem items_to_value_map (items : List Datum) :
    itemsToValue schema items = items.map (·.toValue schema) := by
  induction items with
  | nil => rfl
  | cons item rest ih => rw [itemsToValue, ih, List.map_cons]

theorem entries_to_value_map (entries : List (Atom × Datum)) :
    entriesToValue schema entries =
      entries.map fun entry => (entry.1.text, entry.2.toValue schema) := by
  induction entries with
  | nil => rfl
  | cons entry rest ih => rw [entriesToValue, ih, List.map_cons]

theorem convert_list (items : List Value) (item : Ty) :
    convert schema (.list items) (.list item) =
      (inOrder (items.map fun value => convert schema value item)).map .list := by
  have parts : convert schema (.list items) (.list item) =
      (inOrder ((itemSources schema items).map fun source => source item)).map .list := rfl
  rw [parts, item_sources_map, List.map_map]
  rfl

/-- The key of an entry is converted from its text. -/
def convertEntry (key : AtomType) (item : Ty) (entry : String × Value) :
    Except ConvertError (Atom × Datum) := do
  let atom ← Atom.ofValue key (.string entry.1)
  let datum ← convert schema entry.2 item
  return (atom, datum)

theorem convert_map (entries : List (String × Value)) (order : MapOrder) (key : AtomType)
    (item : Ty) :
    convert schema (.map entries) (.map order key item) =
      (inOrder (entries.map (convertEntry schema key item))).map fun converted =>
        .map (order.arrange converted) := by
  have parts : convert schema (.map entries) (.map order key item) =
      (Source.entries key item (entrySources schema entries)).map fun converted =>
        .map (order.arrange converted) := rfl
  rw [parts, Source.entries, entry_sources_map, List.map_map]
  rfl

end MarkupTemplate
