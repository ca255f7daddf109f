import MarkupTemplate.Proofs.Element.Attributes
import MarkupTemplate.Proofs.Forest.Building
import MarkupTemplate.Proofs.Token.Printable

/-!
Reading the markup of elements. Canonical elements are those that markup can
tell apart: texts are not empty, do not touch, and keep their line breaks inside;
attributes are canonical; a text has nothing but its content. Main statement: the
markup of canonical elements reads back as these elements.
-/

namespace MarkupTemplate.Element

open Scan (Item)

def startsWithText : List Element → Bool
  | [] => false
  | element :: _ => element.isText

inductive Canonical : List Element → Prop where
  | nil : Canonical []
  | text (content : String) (rest : List Element) : content.toList ≠ [] →
      ¬ Scan.StartsWithBreak content.toList → ¬ Scan.EndsWithBreak content.toList →
      startsWithText rest = false → Canonical rest → Canonical (ofText content :: rest)
  | element (kind : String) (attrs : Dict Value) (children rest : List Element) :
      kind ≠ textKind → IsWord nameMarks kind.toList → CanonicalAttrs attrs →
      Canonical children → Canonical rest → Canonical (⟨kind, attrs, children⟩ :: rest)

mutual

/-- How many elements with children stand inside each other. -/
def depth : Element → Nat
  | ⟨_, _, children⟩ => if children.isEmpty then 0 else allDepth children + 1

def allDepth : List Element → Nat
  | [] => 0
  | element :: rest => max (depth element) (allDepth rest)

end

mutual

/-- The same element with the attributes as they are written, in ascending order. -/
def arranged : Element → Element
  | ⟨kind, attrs, children⟩ => ⟨kind, Dict.ascending attrs, arrangedAll children⟩

def arrangedAll : List Element → List Element
  | [] => []
  | element :: rest => arranged element :: arrangedAll rest

end

mutual

/-- The tags and texts of the markup, one after another. -/
def pieces : Element → List String
  | ⟨kind, attrs, children⟩ =>
      if kind = textKind then [Entity.escape (contentOf attrs) false]
      else if children.isEmpty then ["<" ++ kind ++ attrsMarkup attrs ++ "/>"]
      else ("<" ++ kind ++ attrsMarkup attrs ++ ">") :: allPieces children ++ ["</" ++ kind ++ ">"]

def allPieces : List Element → List String
  | [] => []
  | element :: rest => pieces element ++ allPieces rest

end

mutual

/-- What the texts in an element have as content. -/
def texts : Element → List String
  | ⟨kind, attrs, children⟩ => if kind = textKind then [contentOf attrs] else allTexts children

def allTexts : List Element → List String
  | [] => []
  | element :: rest => texts element ++ allTexts rest

end

mutual

theorem join_pieces : (element : Element) → String.join (pieces element) = markup element
  | ⟨kind, attrs, children⟩ => by
      rw [pieces, markup]
      split
      · simp [String.join_cons]
      · split
        · simp [String.join_cons]
        · simp [String.join_cons, join_all_pieces children, String.append_assoc]

theorem join_all_pieces :
    (elements : List Element) → String.join (allPieces elements) = allMarkup elements
  | [] => rfl
  | element :: rest => by
      rw [allPieces, allMarkup, String.join_append, join_pieces element, join_all_pieces rest]

end

theorem arranged_equals (elements : List Element) (canonical : Canonical elements) :
    allEqual (arrangedAll elements) elements = true := by
  induction canonical with
  | nil => rfl
  | text content rest _ _ _ _ _ ih =>
      have same : arranged (ofText content) = ofText content := rfl
      have self : equals (ofText content) (ofText content) = true := by
        simp [ofText, equals, Value.equals, Value.entriesWithin, Dict.find, allEqual]
      simp [arrangedAll, allEqual, same, self, ih]
  | element kind attrs children rest _ _ attrsCanonical _ _ childrenIh restIh =>
      simp [arrangedAll, arranged, allEqual, equals, ascending_equals attrs attrsCanonical,
        childrenIh, restIh]

/-- The markup of canonical elements is a row of items that fold into nodes, and these give the
elements in every scope. -/
structure Reads (elements : List Element) (items : List Item) (nodes : List Node) : Prop where
  canonical : Canonical elements
  pieces : (allPieces elements).map String.toList = items.map Item.source
  texts : ∀ content, .text content ∈ items → String.ofList content ∈ allTexts elements
  printable : Scan.Printable false items
  begins : Scan.startsWithText items = startsWithText elements
  builds : Builds (allDepth elements) (items.map Item.piece) nodes
  produces : ∀ scope, Reader.plain.forestBody nodes scope = arrangedAll elements

theorem Reads.gives {elements : List Element} {items : List Item} {nodes : List Node}
    (reads : Reads elements items nodes) (scope : Scope) :
    allEqual (Reader.plain.forestBody nodes scope) elements = true := by
  rw [reads.produces scope]
  exact arranged_equals elements reads.canonical

theorem Reads.source {elements : List Element} {items : List Item} {nodes : List Node}
    (reads : Reads elements items nodes) :
    (allMarkup elements).toList = Scan.sourceOf items := by
  rw [← join_all_pieces elements, String.toList_join, List.flatMap_def, reads.pieces,
    Scan.sourceOf, List.flatMap_def]

theorem reads_nil : Reads [] [] [] where
  canonical := .nil
  pieces := rfl
  texts := by simp
  printable := Scan.printable_nil false
  begins := rfl
  builds := builds_nil 0
  produces := fun _ => rfl

theorem reads_text (content : String) (rest : List Element) (items : List Item)
    (nodes : List Node) (filled : content.toList ≠ [])
    (start : ¬ Scan.StartsWithBreak content.toList) (finish : ¬ Scan.EndsWithBreak content.toList)
    (apart : startsWithText rest = false) (reads : Reads rest items nodes) :
    Reads (ofText content :: rest) (.text content.toList :: items) (.text content :: nodes) where
  canonical := .text content rest filled start finish apart reads.canonical
  pieces := by
    have written : pieces (ofText content) = [Entity.escape content false] := rfl
    rw [allPieces, List.map_append, reads.pieces, written, List.map_singleton, Entity.escape,
      String.toList_ofList]
    rfl
  texts := by
    intro other member
    rw [allTexts]
    rcases List.mem_cons.mp member with same | member
    · rw [Item.text.inj same, String.ofList_toList]
      exact List.mem_append_left _ List.mem_cons_self
    · exact List.mem_append_right _ (reads.texts other member)
  printable := by
    have plain : (Item.text content.toList).Plain false := ⟨filled, fun on => by cases on⟩
    exact Scan.printable_text false _ _ plain ⟨start, finish⟩ (reads.begins.trans apart)
      reads.printable
  begins := rfl
  builds := by
    have same : Item.piece (.text content.toList) = .text content := by simp [Item.piece]
    have shallow : allDepth (ofText content :: rest) = allDepth rest := Nat.zero_max _
    rw [List.map_cons, same, shallow]
    exact builds_cons _ _ _ _ _ (builds_text _ content) reads.builds
  produces := by
    intro scope
    rw [Reader.forest_cons, reads.produces scope]
    rfl

/-- The text of the attributes behind the name of a tag. -/
def attrsText (attrs : Dict Value) : List Char := (Setting.printAll (settings attrs)).toList

theorem attrs_follow (attrs : Dict Value) (canonical : CanonicalAttrs attrs) :
    Scan.Follows (attrsText attrs) :=
  Setting.print_all_follows false (settings attrs) (settings_legible attrs canonical)

-- What the node of an element produces, when its children are given.
theorem element_produces (token : Token) (kind : String) (attrs : Dict Value)
    (slots : Dict Body) (scope : Scope) (angle : token.bracket = .angle)
    (named : token.name = kind) (extra : token.extra = String.ofList (attrsText attrs))
    (other : kind ≠ textKind) (canonical : CanonicalAttrs attrs) :
    Reader.plain.tokenBody token slots scope =
      [⟨kind, Dict.ascending attrs, slotBody slots defaultSlot scope⟩] := by
  have printed : token.extra = Setting.printAll (settings attrs) := extra.trans String.ofList_toList
  have produced := Setting.tag_produces Reader.plain token slots scope (settings attrs) angle
    printed (settings_legible attrs canonical) (settings_distinct attrs canonical)
  rw [named, new_settings attrs canonical _ kind _ other] at produced
  exact produced

theorem reads_leaf (kind : String) (attrs : Dict Value) (rest : List Element) (items : List Item)
    (nodes : List Node) (other : kind ≠ textKind) (word : IsWord nameMarks kind.toList)
    (canonical : CanonicalAttrs attrs) (reads : Reads rest items nodes) :
    Reads (⟨kind, attrs, []⟩ :: rest)
      (.tag (kind.toList ++ (attrsText attrs ++ ['/'])) :: items)
      (.token (Scan.aloneTag kind.toList (attrsText attrs)) [] :: nodes) where
  canonical := .element kind attrs [] rest other word canonical .nil reads.canonical
  pieces := by
    rw [allPieces, List.map_append, reads.pieces, pieces, if_neg other,
      attrs_markup_print attrs canonical]
    simp [Item.source, attrsText]
  texts := by
    intro content member
    have within := reads.texts content (by simpa using member)
    exact List.mem_append_right _ within
  printable := by
    have closed : '>' ∉ attrsText attrs ++ ['/'] := by
      simp [(attrs_follow attrs canonical).closed]
    exact Scan.printable_tag false _ _ (Scan.plain_named false _ _ word closed) reads.printable
  begins := by
    have tag : isText ⟨kind, attrs, []⟩ = false := by simp [isText, other]
    exact tag.symm
  builds := by
    have shallow : allDepth (⟨kind, attrs, []⟩ :: rest) = allDepth rest := Nat.zero_max _
    rw [List.map_cons, Item.piece, Scan.tag_alone _ _ word (attrs_follow attrs canonical), shallow]
    exact builds_cons _ _ _ _ _ (builds_alone _ _ rfl) reads.builds
  produces := by
    intro scope
    have produced := element_produces (Scan.aloneTag kind.toList (attrsText attrs)) kind attrs []
      scope rfl String.ofList_toList rfl other canonical
    rw [Reader.forest_cons, Reader.nodeBody, Reader.slotBodies, produced, reads.produces scope]
    rfl

theorem reads_block (kind : String) (attrs : Dict Value) (children rest : List Element)
    (inner items : List Item) (innerNodes nodes : List Node) (some : children ≠ [])
    (other : kind ≠ textKind) (word : IsWord nameMarks kind.toList)
    (canonical : CanonicalAttrs attrs) (inside : Reads children inner innerNodes)
    (reads : Reads rest items nodes) :
    Reads (⟨kind, attrs, children⟩ :: rest)
      (.tag (kind.toList ++ attrsText attrs) :: (inner ++ .tag ('/' :: kind.toList) :: items))
      (.token (Scan.openingTag kind.toList (attrsText attrs)) [(defaultSlot, innerNodes)] ::
        nodes) where
  canonical := .element kind attrs children rest other word canonical inside.canonical
    reads.canonical
  pieces := by
    have filled : children.isEmpty = false := by simpa using some
    rw [allPieces, List.map_append, reads.pieces, pieces, if_neg other, filled,
      attrs_markup_print attrs canonical]
    simp [Item.source, attrsText, inside.pieces]
  texts := by
    intro content member
    rw [allTexts, texts, if_neg other]
    have split : .text content ∈ inner ∨ .text content ∈ items := by simpa using member
    rcases split with within | behind
    · exact List.mem_append_left _ (inside.texts content within)
    · exact List.mem_append_right _ (reads.texts content behind)
  printable := by
    have behind := Scan.printable_tag false _ _ (Scan.plain_closing false _ word) reads.printable
    have within := Scan.printable_append false _ _ inside.printable behind rfl
    have closed := (attrs_follow attrs canonical).closed
    exact Scan.printable_tag false _ _ (Scan.plain_named false _ _ word closed) within
  begins := by
    have tag : isText ⟨kind, attrs, children⟩ = false := by simp [isText, other]
    exact tag.symm
  builds := by
    have filled : children.isEmpty = false := by simpa using some
    have deep : allDepth (⟨kind, attrs, children⟩ :: rest) =
        max (allDepth children + 1) (allDepth rest) := by
      simp [allDepth, depth, filled]
    rw [List.map_cons, List.map_append, List.map_cons, Item.piece, Item.piece,
      Scan.tag_opening _ _ word (attrs_follow attrs canonical), Scan.tag_closing _ word, deep]
    exact builds_block_before _ _ _ _ _ _ _ defaultSlot _ rfl rfl rfl
      (runs_default _ _ _ _ inside.builds) reads.builds
  produces := by
    intro scope
    have produced := element_produces (Scan.openingTag kind.toList (attrsText attrs)) kind attrs
      [(defaultSlot, Reader.plain.forestBody innerNodes)] scope rfl String.ofList_toList rfl other
      canonical
    have children : slotBody [(defaultSlot, Reader.plain.forestBody innerNodes)] defaultSlot scope =
        arrangedAll children := inside.produces scope
    rw [Reader.forest_cons, Reader.nodeBody, Reader.slotBodies, Reader.slotBodies, produced,
      children, reads.produces scope]
    rfl

theorem canonical_reads (elements : List Element) (canonical : Canonical elements) :
    ∃ items nodes, Reads elements items nodes := by
  induction canonical with
  | nil => exact ⟨[], [], reads_nil⟩
  | text content rest filled start finish apart _ ih =>
      obtain ⟨items, nodes, reads⟩ := ih
      exact ⟨_, _, reads_text content rest items nodes filled start finish apart reads⟩
  | element kind attrs children rest other word attrsCanonical _ _ childrenIh restIh =>
      obtain ⟨inner, innerNodes, inside⟩ := childrenIh
      obtain ⟨items, nodes, reads⟩ := restIh
      -- An element without children is printed as a tag that stands alone.
      by_cases leaf : children = []
      · subst leaf
        exact ⟨_, _, reads_leaf kind attrs rest items nodes other word attrsCanonical reads⟩
      · exact ⟨_, _, reads_block kind attrs children rest inner items innerNodes nodes leaf other
          word attrsCanonical inside reads⟩

theorem Reads.parse_tokenized {elements : List Element} {items : List Item} {nodes : List Node}
    (reads : Reads elements items nodes) (shallow : allDepth elements ≤ maxDepth - 1)
    (source : String) (tokenized : tokenize false source = items.map Item.piece) :
    parse source = arrangedAll elements := by
  have room : allDepth elements < maxDepth := Nat.lt_of_le_of_lt shallow (by decide)
  have plain : Reader.plain.templated = false := rfl
  rw [parse, Reader.render, plain, tokenized, fold_builds _ _ nodes reads.builds room]
  exact reads.produces (.root [])

theorem parse_arranged (elements : List Element) (canonical : Canonical elements)
    (shallow : allDepth elements ≤ maxDepth - 1) :
    parse (allMarkup elements) = arrangedAll elements := by
  obtain ⟨items, nodes, reads⟩ := canonical_reads elements canonical
  have pieces := Scan.tokenize_items false (allMarkup elements) items reads.source reads.printable
  exact reads.parse_tokenized shallow (allMarkup elements) pieces

/-- The markup of canonical elements reads back as these elements. -/
theorem parse_all_markup (elements : List Element) (canonical : Canonical elements)
    (shallow : allDepth elements ≤ maxDepth - 1) :
    allEqual (parse (allMarkup elements)) elements = true := by
  obtain ⟨items, nodes, reads⟩ := canonical_reads elements canonical
  have pieces := Scan.tokenize_items false (allMarkup elements) items reads.source reads.printable
  have room : allDepth elements < maxDepth := Nat.lt_of_le_of_lt shallow (by decide)
  have forest := fold_builds (allDepth elements) _ nodes reads.builds room
  have plain : Reader.plain.templated = false := rfl
  rw [parse, Reader.render, plain, pieces, forest]
  exact reads.gives (.root [])

def sampleLink : Element :=
  ⟨"a", [("title", .string "\"<b>\" & co"), ("dataOpen", .bool true), ("lazy", .bool false)],
    [.ofText "&lt; is <", ⟨"br", [], []⟩]⟩

theorem sample_attrs : CanonicalAttrs sampleLink.attrs where
  distinct := by decide
  each := by
    intro entry member
    rcases List.mem_cons.mp member with rfl | member
    · exact ⟨by decide, by decide, by decide, Or.inl ⟨_, rfl⟩, fun same => by cases same⟩
    rcases List.mem_cons.mp member with rfl | member
    · exact ⟨by decide, by decide, by decide, Or.inr ⟨_, rfl⟩, fun _ => by decide⟩
    rcases List.mem_cons.mp member with rfl | member
    · exact ⟨by decide, by decide, by decide, Or.inr ⟨_, rfl⟩, fun same => by cases same⟩
    · cases member

theorem sample_canonical : Canonical [sampleLink] := by
  have line : '\n' ∉ "&lt; is <".toList := by decide
  have leaf : Canonical [⟨"br", [], []⟩] :=
    .element "br" [] [] [] (by decide) (by decide) ⟨by decide, by simp⟩ .nil .nil
  have unbroken := Scan.unbroken_line _ line
  have inside := Canonical.text "&lt; is <" _ (by decide) unbroken.1 unbroken.2 rfl leaf
  exact .element "a" _ _ [] (by decide) (by decide) sample_attrs inside .nil

theorem parse_all_markup_link :
    Canonical [sampleLink] ∧ allDepth [sampleLink] ≤ maxDepth - 1 ∧
      allEqual (parse (allMarkup [sampleLink])) [sampleLink] = true :=
  ⟨sample_canonical, by decide, parse_all_markup _ sample_canonical (by decide)⟩

end MarkupTemplate.Element
