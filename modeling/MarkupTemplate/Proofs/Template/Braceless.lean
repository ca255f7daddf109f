import MarkupTemplate.Proofs.Template.Parts
import MarkupTemplate.Proofs.Token.Items
import MarkupTemplate.Proofs.Token.Slices

/-!
Templates without an opening brace. Everything that a template recognises beyond plain markup
begins with that character, a directive as well as the expression of an attribute, so without it
the tokenizer and the reader of attributes go the same way in both modes, and no scope is looked
at. Main statement: such a template is plain markup, whatever its context.
-/

namespace MarkupTemplate

theorem Scan.mark_braceless (c : Char) (rest : List Char) (other : c ≠ '{') :
    markAt? true c rest = markAt? false c rest := by
  by_cases angle : c = '<'
  · rw [markAt?, markAt?, if_pos angle, if_pos angle]
  · have template := mark_none true c rest angle fun _ => other
    have plain := mark_none false c rest angle fun on => absurd on Bool.false_ne_true
    rw [template, plain]

theorem Scan.pieces_braceless (skip : Nat) (layout : Bool) (pending text : List Char)
    (braceless : '{' ∉ text) :
    piecesAfter true skip layout pending text = piecesAfter false skip layout pending text := by
  induction text generalizing skip layout pending with
  | nil => cases skip <;> rfl
  | cons c rest ih =>
      simp only [List.mem_cons, not_or] at braceless
      have later := fun skip layout pending => ih skip layout pending braceless.2
      cases skip with
      | succ skip => exact later skip layout pending
      | zero => simp only [piecesAfter, mark_braceless c rest (Ne.symm braceless.1), later]

theorem tokenize_braceless (source : String) (braceless : '{' ∉ source.toList) :
    tokenize true source = tokenize false source :=
  Scan.pieces_braceless 0 true [] source.toList braceless

namespace Given

theorem behind_key_braceless (text : List Char) (braceless : '{' ∉ text) :
    behindKey? true text = behindKey? false text := by
  unfold behindKey?
  split
  · rfl
  · rfl
  · simp at braceless
  · rfl

theorem read_braceless (skip : Nat) (text : List Char) (braceless : '{' ∉ text) :
    readAfter true skip text = readAfter false skip text := by
  induction text generalizing skip with
  | nil => cases skip <;> rfl
  | cons c rest ih =>
      simp only [List.mem_cons, not_or] at braceless
      have later := fun skip => ih skip braceless.2
      cases skip with
      | succ skip => exact later skip
      | zero =>
          have behind : ∀ count, '{' ∉ rest.drop count := fun count member =>
            braceless.2 (List.mem_of_mem_drop member)
          simp only [readAfter, behind_key_braceless _ (behind _), later]

end Given

-- No value is read in a scope.
theorem read_attrs_braceless (left right : String → Value) (extra : String)
    (braceless : '{' ∉ extra.toList) :
    readAttrs true left extra = readAttrs false right extra := by
  rw [← Given.read_attrs_agree false left right extra nofun, readAttrs, readAttrs,
    Given.read_braceless 0 _ braceless]

theorem tag_braceless (text inside : List Char) (slots others : Dict Body) (left right : Scope)
    (braceless : '{' ∉ text) (stands : inside <:+: text)
    (same : slotBody slots defaultSlot left = slotBody others defaultSlot right) :
    Reader.template.tokenBody (Scan.tagOf inside) slots left =
      Reader.plain.tokenBody (Scan.tagOf inside) others right := by
  have absent : '{' ∉ (Scan.tagOf inside).extra.toList := fun member =>
    braceless (((Scan.tag_extra inside).trans stands).subset member)
  have attrs := read_attrs_braceless left.interpolate right.interpolate _ absent
  have tag : (Scan.tagOf inside).bracket = .angle := rfl
  simp only [Reader.tokenBody, tag, Reader.template, Reader.plain, attrs, same]

-- The two readers look at the same tags, and what they produce of them is the same in all scopes.
theorem braceless_related (text : List Char) (braceless : '{' ∉ text) :
    Reader.Relates .template .plain (Scan.CutFrom false text) fun _ body other =>
      ∀ left right, body left = other right where
  nothing _ _ _ := rfl
  append _ _ _ _ _ first rest left right := by simp only [first left right, rest left right]
  text _ _ _ _ := rfl
  token _ token slots others cut same left right := by
    cases cut with
    | tag inside stands =>
        exact tag_braceless text inside slots others left right braceless stands
          (same defaultSlot left right)
    | directive _ on _ => cases on

/-- A template without an opening brace has the tokens of plain markup, and renders in every context
to what plain markup gives. -/
theorem braceless_template_plain (source : String) (context : Dict Value)
    (braceless : '{' ∉ source.toList) :
    tokenize true source = tokenize false source ∧ render source context = parse source := by
  have tokens := tokenize_braceless source braceless
  constructor
  · exact tokens
  · have relates := braceless_related source.toList braceless
    have forest := Reader.forest_related relates (fold (tokenize false source)) _ (Nat.le_refl _)
      (Scan.forest_cut false source)
    have templated : Reader.template.templated = true := rfl
    have plain : Reader.plain.templated = false := rfl
    rw [render, parse, Reader.render, Reader.render, templated, plain, tokens]
    exact forest (.root context) (.root [])

/-- Tags that do not match, a comment, odd quotes, and braces that are closed but never opened. -/
def oddMarkup : String :=
  "<a t='\"' u=\"&#123;x\x7d\" =v no-w='>x\x7d</b ><!-- <i> \x7d -->\n</ a/><!doctype></a><"

theorem braceless_template_plain_odd :
    '{' ∉ oddMarkup.toList ∧ tokenize true oddMarkup = tokenize false oddMarkup ∧
      render oddMarkup [("x", .int 1)] = parse oddMarkup := by
  have braceless : '{' ∉ oddMarkup.toList := by decide
  exact ⟨braceless, braceless_template_plain oddMarkup _ braceless⟩

end MarkupTemplate
