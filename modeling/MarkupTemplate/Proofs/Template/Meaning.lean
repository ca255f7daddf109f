import MarkupTemplate.Proofs.Forest.Building
import MarkupTemplate.Proofs.Template.DirectiveText
import MarkupTemplate.Proofs.Template.Tree
import MarkupTemplate.Proofs.Token.Printable
import MarkupTemplate.Template.Render

/-!
Rendering a printed template. The print of a template is a row of items, the
pieces of these items fold into a forest of the same shape, and every node of
the forest produces what its part denotes. Main statement: a template renders
to the elements that it denotes in the scope of the context.
-/

namespace MarkupTemplate.Template

open Scan (Item)

/-- What follows the name of a loop. -/
def loopText (items item : String) : List Char :=
  ' ' :: (items.toList ++ (" as ".toList ++ item.toList))

def conditionText (condition : String) : List Char := ' ' :: condition.toList

def items : Template → List Item
  | .empty => []
  | .text content rest => .text content.toList :: rest.items
  | .value source rest => .directive ('@' :: source.toList) :: rest.items
  | .element name attrs body rest =>
      .tag (name.toList ++ (Setting.printAll attrs).toList) ::
        (body.items ++ .tag ('/' :: name.toList) :: rest.items)
  | .whether condition yes rest =>
      .directive ('#' :: ("if".toList ++ conditionText condition)) ::
        (yes.items ++ .directive "/if".toList :: rest.items)
  | .choice condition yes no rest =>
      .directive ('#' :: ("if".toList ++ conditionText condition)) ::
        (yes.items ++ .directive ":else".toList ::
          (no.items ++ .directive "/if".toList :: rest.items))
  | .loop items item body rest =>
      .directive ('#' :: ("each".toList ++ loopText items item)) ::
        (body.items ++ .directive "/each".toList :: rest.items)

def openingDirective (name : String) (extra : List Char) : Token :=
  Scan.directive .opening ('#' :: (name.toList ++ extra)) name.toList extra

def conditionToken (condition : String) : Token :=
  openingDirective "if" (conditionText condition)

def loopToken (items item : String) : Token := openingDirective "each" (loopText items item)

def valueToken (source : String) : Token :=
  Scan.directive .alone ('@' :: source.toList) [] source.toList

def nodes : Template → List Node
  | .empty => []
  | .text content rest => .text content :: rest.nodes
  | .value source rest => .token (valueToken source) [] :: rest.nodes
  | .element name attrs body rest =>
      .token (Scan.openingTag name.toList (Setting.printAll attrs).toList)
        [(defaultSlot, body.nodes)] :: rest.nodes
  | .whether condition yes rest =>
      .token (conditionToken condition) [(defaultSlot, yes.nodes)] :: rest.nodes
  | .choice condition yes no rest =>
      .token (conditionToken condition)
        [(defaultSlot, yes.nodes), (elseSlot, no.nodes)] :: rest.nodes
  | .loop items item body rest =>
      .token (loopToken items item) [(defaultSlot, body.nodes)] :: rest.nodes

theorem print_items (template : Template) : template.print.toList = Scan.sourceOf template.items := by
  induction template with
  | empty => rfl
  | text content rest ih =>
      rw [print, String.toList_append, ih, items, Scan.source_cons, Entity.escape,
        String.toList_ofList]
      rfl
  | value source rest ih => simp [print, items, Scan.source_cons, Item.source, ih]
  | element name attrs body rest bodyIh restIh =>
      simp [print, items, Scan.source_cons, Scan.source_append, Item.source, bodyIh, restIh]
  | whether condition yes rest yesIh restIh =>
      simp [print, items, Scan.source_cons, Scan.source_append, Item.source, conditionText, yesIh,
        restIh]
  | choice condition yes no rest yesIh noIh restIh =>
      simp [print, items, Scan.source_cons, Scan.source_append, Item.source, conditionText, yesIh,
        noIh, restIh]
  | loop source item body rest bodyIh restIh =>
      simp [print, items, Scan.source_cons, Scan.source_append, Item.source, loopText, bodyIh,
        restIh]

theorem starts_with_text (template : Template) :
    Scan.startsWithText template.items = template.startsWithText := by
  cases template <;> rfl

theorem condition_closed (condition : String) (closed : '}' ∉ condition.toList) :
    '}' ∉ '#' :: ("if".toList ++ conditionText condition) := by
  simp [conditionText, closed]

theorem loop_closed (items item : String) (closed : '}' ∉ items.toList)
    (identifier : Expr.IsIdentifier item.toList) :
    '}' ∉ '#' :: ("each".toList ++ loopText items item) := by
  have other : '}' ∉ item.toList := fun member =>
    Expr.part_not_closing '}' (Expr.identifier_parts _ identifier '}' member) rfl
  simp [loopText, closed, other]

theorem items_printable (template : Template) (formed : template.WellFormed) :
    Scan.Printable true template.items := by
  induction template with
  | empty => exact Scan.printable_nil true
  | text content rest ih =>
      obtain ⟨filled, curly, line, apart, restFormed⟩ := formed
      have mark : Scan.startsWithText rest.items = false := (starts_with_text rest).trans apart
      exact Scan.printable_text true _ _ ⟨filled, fun _ => curly⟩ (Scan.unbroken_line _ line) mark
        (ih restFormed)
  | value source rest ih =>
      exact Scan.printable_directive _ _ (by simp [formed.1]) (ih formed.2)
  | element name attrs body rest bodyIh restIh =>
      obtain ⟨word, legible, _, bodyFormed, restFormed⟩ := formed
      have closed := (Setting.print_all_follows true attrs legible).closed
      have behind := Scan.printable_tag true _ _ (Scan.plain_closing true _ word) (restIh restFormed)
      have inside := Scan.printable_append true _ _ (bodyIh bodyFormed) behind rfl
      exact Scan.printable_tag true _ _ (Scan.plain_named true _ _ word closed) inside
  | whether condition yes rest yesIh restIh =>
      obtain ⟨closed, yesFormed, restFormed⟩ := formed
      have behind := Scan.printable_directive "/if".toList _ (by decide) (restIh restFormed)
      have inside := Scan.printable_append true _ _ (yesIh yesFormed) behind rfl
      exact Scan.printable_directive _ _ (condition_closed condition closed) inside
  | choice condition yes no rest yesIh noIh restIh =>
      obtain ⟨closed, yesFormed, noFormed, restFormed⟩ := formed
      have behind := Scan.printable_directive "/if".toList _ (by decide) (restIh restFormed)
      have second := Scan.printable_append true _ _ (noIh noFormed) behind rfl
      have turning := Scan.printable_directive ":else".toList _ (by decide) second
      have inside := Scan.printable_append true _ _ (yesIh yesFormed) turning rfl
      exact Scan.printable_directive _ _ (condition_closed condition closed) inside
  | loop source item body rest bodyIh restIh =>
      obtain ⟨closed, _, identifier, bodyFormed, restFormed⟩ := formed
      have behind := Scan.printable_directive "/each".toList _ (by decide) (restIh restFormed)
      have inside := Scan.printable_append true _ _ (bodyIh bodyFormed) behind rfl
      exact Scan.printable_directive _ _ (loop_closed source item closed identifier) inside

theorem begins_blank (text : List Char) : ∀ c ∈ (' ' :: text).head?, isBlank c = true := by
  simp

theorem opening_piece (name : String) (extra : List Char) (word : IsWord ['}'] name.toList)
    (begins : ∀ c ∈ extra.head?, isBlank c = true) :
    Item.piece (.directive ('#' :: (name.toList ++ extra))) =
      .token (openingDirective name extra) := by
  have read := Scan.block_named .opening ('#' :: (name.toList ++ extra)) name.toList extra word begins
  simp only [Item.piece, Scan.directiveOf, read, openingDirective]

theorem condition_piece (condition : String) :
    Item.piece (.directive ('#' :: ("if".toList ++ conditionText condition))) =
      .token (conditionToken condition) :=
  opening_piece "if" _ (by decide) (begins_blank condition.toList)

theorem loop_piece (items item : String) :
    Item.piece (.directive ('#' :: ("each".toList ++ loopText items item))) =
      .token (loopToken items item) :=
  opening_piece "each" _ (by decide) (begins_blank _)

theorem items_build (template : Template) (formed : template.WellFormed) :
    Builds template.depth (template.items.map Item.piece) template.nodes := by
  induction template with
  | empty => exact builds_nil 0
  | text content rest ih =>
      obtain ⟨_, _, _, _, restFormed⟩ := formed
      have same : Item.piece (.text content.toList) = .text content := by simp [Item.piece]
      rw [items, List.map_cons, same]
      exact builds_cons _ _ _ _ _ (builds_text _ content) (ih restFormed)
  | value source rest ih =>
      exact builds_cons _ _ _ _ _ (builds_alone _ (valueToken source) rfl) (ih formed.2)
  | element name attrs body rest bodyIh restIh =>
      obtain ⟨word, legible, _, bodyFormed, restFormed⟩ := formed
      have follows := Setting.print_all_follows true attrs legible
      rw [items, List.map_cons, List.map_append, List.map_cons, Item.piece, Item.piece,
        Scan.tag_opening _ _ word follows, Scan.tag_closing _ word]
      exact builds_block_before _ _ _ _ _ _ _ defaultSlot _ rfl rfl rfl
        (runs_default _ _ _ _ (bodyIh bodyFormed)) (restIh restFormed)
  | whether condition yes rest yesIh restIh =>
      obtain ⟨_, yesFormed, restFormed⟩ := formed
      rw [items, List.map_cons, List.map_append, List.map_cons, condition_piece]
      exact builds_block_before _ _ _ _ _ _ _ defaultSlot _ rfl rfl rfl
        (runs_default _ _ _ _ (yesIh yesFormed)) (restIh restFormed)
  | choice condition yes no rest yesIh noIh restIh =>
      obtain ⟨_, yesFormed, noFormed, restFormed⟩ := formed
      let turning := Scan.directiveOf ":else".toList
      have fresh : turning.name ∉ Dict.keys [(defaultSlot, yes.nodes)] := by
        change elseSlot ∉ [defaultSlot]
        decide
      -- Both slots get as many levels as the deeper one needs.
      have first := builds_more _ _ _ _ (yesIh yesFormed) (Nat.le_max_left yes.depth no.depth)
      have second := builds_more _ _ _ _ (noIh noFormed) (Nat.le_max_right yes.depth no.depth)
      have inside := runs_append _ _ _ _ _ _ (runs_default _ (conditionToken condition) _ _ first)
        (runs_slot _ _ turning defaultSlot _ _ _ rfl fresh second)
      have whole := builds_block_before _ _ (conditionToken condition)
        (Scan.directiveOf "/if".toList) _ _ _ _ _ rfl rfl rfl inside (restIh restFormed)
      rw [items, List.map_cons, List.map_append, List.map_cons, List.map_append, List.map_cons,
        condition_piece]
      rw [List.append_assoc] at whole
      exact whole
  | loop source item body rest bodyIh restIh =>
      obtain ⟨_, _, _, bodyFormed, restFormed⟩ := formed
      rw [items, List.map_cons, List.map_append, List.map_cons, loop_piece]
      exact builds_block_before _ _ _ _ _ _ _ defaultSlot _ rfl rfl rfl
        (runs_default _ _ _ _ (bodyIh bodyFormed)) (restIh restFormed)

theorem directive_produces (name : String) (extra : List Char) (directive : Directive)
    (slots : Dict Body) (scope : Scope) (named : name ≠ "")
    (found : Dict.find name builtins = some directive) :
    Reader.template.tokenBody (openingDirective name extra) slots scope =
      directive (openingDirective name extra) slots scope := by
  have same : (openingDirective name extra).name = name := String.ofList_toList
  have curly : (openingDirective name extra).bracket = .curly := rfl
  have table : Reader.template.directives = builtins := rfl
  simp only [Reader.tokenBody, curly, same, named, ↓reduceIte, table, found]

theorem condition_extra (condition : String) (scope : Scope) :
    scope.evaluate (conditionToken condition).extra = scope.evaluate condition := by
  apply evaluate_trimmed
  have text : (conditionToken condition).extra.toList = ' ' :: condition.toList :=
    String.toList_ofList
  rw [text, trim_blank_cons ' ' condition.toList isBlank_space]

theorem whether_produces (condition : String) (yes : Body) (scope : Scope) :
    Reader.template.tokenBody (conditionToken condition) [(defaultSlot, yes)] scope =
      if (scope.evaluate condition).isTruthy then yes scope else [] := by
  rw [conditionToken, directive_produces "if" _ ifDirective _ scope (by decide) rfl,
    ← conditionToken, ifDirective, condition_extra]
  cases (scope.evaluate condition).isTruthy <;> rfl

theorem choice_produces (condition : String) (yes no : Body) (scope : Scope) :
    Reader.template.tokenBody (conditionToken condition) [(defaultSlot, yes), (elseSlot, no)]
        scope =
      if (scope.evaluate condition).isTruthy then yes scope else no scope := by
  rw [conditionToken, directive_produces "if" _ ifDirective _ scope (by decide) rfl,
    ← conditionToken, ifDirective, condition_extra]
  cases (scope.evaluate condition).isTruthy <;> rfl

-- A loop finds its items before the word `as`, and the name of an item behind it.
theorem loop_produces (items item : String) (body : Body) (scope : Scope)
    (word : ¬ ['a', 's'] <:+: items.toList) (identifier : Expr.IsIdentifier item.toList) :
    Reader.template.tokenBody (loopToken items item) [(defaultSlot, body)] scope =
      ((scope.interpolate items).loopItems.getD []).flatMap fun value =>
        body (scope.child item value) := by
  -- The blanks at the end of the items go with the word behind them.
  obtain ⟨blanks, split, blank⟩ := trim_end_split (' ' :: items.toList)
  have lead : ¬ ['a', 's'] <:+: ' ' :: items.toList := by
    rw [List.infix_cons_iff]
    rintro (⟨rest, begins⟩ | inside)
    · cases (List.cons.inj begins).1
    · exact word inside
  have inside : ¬ ['a', 's'] <:+: trimEnd (' ' :: items.toList) :=
    fun found => lead (found.trans ⟨[], blanks, split.symm⟩)
  have falls := split_as_printed (trimEnd (' ' :: items.toList)) blanks item.toList
    (trim_end_last_dark _) inside blank identifier
  have whole : (loopToken items item).extra.toList =
      trimEnd (' ' :: items.toList) ++ (blanks ++ " as ".toList ++ item.toList) := by
    calc (loopToken items item).extra.toList
        = (' ' :: items.toList) ++ (" as ".toList ++ item.toList) := String.toList_ofList
      _ = (trimEnd (' ' :: items.toList) ++ blanks) ++ (" as ".toList ++ item.toList) :=
          congrArg (· ++ (" as ".toList ++ item.toList)) split
      _ = trimEnd (' ' :: items.toList) ++ (blanks ++ " as ".toList ++ item.toList) := by
          simp only [List.append_assoc]
  have same : scope.interpolate (String.ofList (trimEnd (' ' :: items.toList))) =
      scope.interpolate items := by
    apply interpolate_trimmed
    have trimmed := trim_append_blank (trimEnd (' ' :: items.toList)) blanks blank
    rw [← split, trim_blank_cons ' ' items.toList isBlank_space] at trimmed
    rw [String.toList_ofList, ← trimmed]
  rw [loopToken, directive_produces "each" _ eachDirective _ scope (by decide) rfl, ← loopToken,
    eachDirective, whole, falls]
  simp only [same, Expr.trim_identifier item.toList identifier, String.ofList_toList]
  cases (scope.interpolate items).loopItems <;> rfl

theorem value_produces (source : String) (scope : Scope) :
    Reader.template.tokenBody (valueToken source) [] scope =
      Element.ofValue (scope.interpolate source) := by
  have extra : (valueToken source).extra = source := String.ofList_toList
  simp only [Reader.tokenBody, extra]
  rfl

theorem element_produces (name : String) (attrs : List (String × Setting)) (body : Body)
    (scope : Scope) (legible : ∀ entry ∈ attrs, Setting.Legible true entry)
    (distinct : (attrs.map Prod.fst).Nodup) :
    Reader.template.tokenBody (Scan.openingTag name.toList (Setting.printAll attrs).toList)
        [(defaultSlot, body)] scope =
      [Element.new name (Setting.values scope.interpolate attrs) (body scope)] := by
  have named : (Scan.openingTag name.toList (Setting.printAll attrs).toList).name = name :=
    String.ofList_toList
  rw [Setting.tag_produces Reader.template _ _ scope attrs rfl String.ofList_toList legible distinct,
    named]
  rfl

-- Every node of the forest of a template produces what its part denotes.
theorem nodes_denote (template : Template) (formed : template.WellFormed) (scope : Scope) :
    Reader.template.forestBody template.nodes scope = template.denote scope := by
  induction template generalizing scope with
  | empty => rfl
  | text content rest ih =>
      obtain ⟨_, _, _, _, restFormed⟩ := formed
      rw [nodes, Reader.forest_cons, ih restFormed]
      rfl
  | value source rest ih =>
      rw [nodes, Reader.forest_cons, ih formed.2, Reader.nodeBody, Reader.slotBodies, value_produces]
      rfl
  | element name attrs body rest bodyIh restIh =>
      obtain ⟨_, legible, distinct, bodyFormed, restFormed⟩ := formed
      rw [nodes, Reader.forest_cons, restIh restFormed, Reader.nodeBody, Reader.slotBodies,
        Reader.slotBodies, element_produces name attrs _ scope legible distinct, bodyIh bodyFormed]
      rfl
  | whether condition yes rest yesIh restIh =>
      obtain ⟨_, yesFormed, restFormed⟩ := formed
      rw [nodes, Reader.forest_cons, restIh restFormed, Reader.nodeBody, Reader.slotBodies,
        Reader.slotBodies, whether_produces, yesIh yesFormed]
      rfl
  | choice condition yes no rest yesIh noIh restIh =>
      obtain ⟨_, yesFormed, noFormed, restFormed⟩ := formed
      rw [nodes, Reader.forest_cons, restIh restFormed, Reader.nodeBody, Reader.slotBodies,
        Reader.slotBodies, Reader.slotBodies, choice_produces, yesIh yesFormed, noIh noFormed]
      rfl
  | loop items item body rest bodyIh restIh =>
      obtain ⟨_, word, identifier, bodyFormed, restFormed⟩ := formed
      rw [nodes, Reader.forest_cons, restIh restFormed, Reader.nodeBody, Reader.slotBodies,
        Reader.slotBodies, loop_produces items item _ scope word identifier]
      simp only [bodyIh bodyFormed]
      rfl

/-- Rendering the print of a template gives what the template denotes. -/
theorem render_print_denotes (template : Template) (context : Dict Value)
    (formed : template.WellFormed) (shallow : template.depth ≤ maxDepth - 1) :
    render template.print context = template.denote (.root context) := by
  have pieces := Scan.tokenize_items true template.print template.items (print_items template)
    (items_printable template formed)
  have room : template.depth < maxDepth := Nat.lt_of_le_of_lt shallow (by decide)
  have forest := fold_builds template.depth _ template.nodes (items_build template formed) room
  have templated : Reader.template.templated = true := rfl
  rw [render, Reader.render, templated, pieces, forest, nodes_denote template formed]

/-- A list with an item for every number that is not zero, and a note. -/
def sampleList : Template :=
  .element "ul" [("class", .text "a>b"), ("data", .expression " xs "), ("open", .no)]
    (.loop "xs" "x"
      (.choice "x > 1" (.element "li" [] (.value "x" .empty) .empty) (.text "<few> &amp; " .empty)
        .empty) .empty)
    (.text " end" .empty)

theorem render_print_denotes_list :
    sampleList.WellFormed ∧ sampleList.depth ≤ maxDepth - 1 ∧
      render sampleList.print [("xs", .list [.int 1, .int 2])] =
        [⟨"ul", [("class", .string "a>b"), ("data", .list [.int 1, .int 2]), ("open", .bool false)],
          [.ofText "<few> &amp; ", ⟨"li", [], [.ofText "2"]⟩]⟩, .ofText " end"] :=
  ⟨by decide, by decide, render_print_denotes sampleList _ (by decide) (by decide)⟩

end MarkupTemplate.Template
