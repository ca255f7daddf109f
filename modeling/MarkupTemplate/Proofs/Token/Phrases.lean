import MarkupTemplate.Proofs.Token.Printable
import MarkupTemplate.Proofs.Token.Trimming

/-!
Phrases of a template: texts, tags and directives with the parts that they are
printed from. Reading a printed row of phrases gives every tag and directive back
as one token, with its name and what follows the name. Of a text it takes off the
layout at its start unless a directive stands before it, and the layout at its end
unless a directive stands behind it. Main statement: these rules alone say what a
printed row is read as.
-/

namespace MarkupTemplate.Scan

inductive Phrase where
  | text (content : List Char)
  | opening (name extra : List Char)
  | alone (name extra : List Char)
  | closing (name : List Char)
  | block (name extra : List Char)
  | continuing (name : List Char)
  | ending (name : List Char)
  | marked (expression : List Char)
  | plain (expression : List Char)

namespace Phrase

def print : Phrase → List Char
  | .text content => Entity.escapeChars false content
  | .opening name extra => '<' :: (name ++ extra ++ ['>'])
  | .alone name extra => '<' :: (name ++ extra ++ ['/', '>'])
  | .closing name => '<' :: '/' :: (name ++ ['>'])
  | .block name extra => '{' :: '#' :: (name ++ extra ++ ['}'])
  | .continuing name => '{' :: ':' :: (name ++ ['}'])
  | .ending name => '{' :: '/' :: (name ++ ['}'])
  | .marked expression => '{' :: '@' :: (expression ++ ['}'])
  | .plain expression => '{' :: (expression ++ ['}'])

/-- The characters that make a directive more than an expression. -/
def markers : List Char := ['@', ':', '/', '#']

/-- No part has a character that would end the phrase early, or make another one of it. -/
def Fits : Phrase → Prop
  | .text content => content ≠ [] ∧ '{' ∉ content
  | .opening name extra => IsWord nameMarks name ∧ Follows extra
  | .alone name extra => IsWord nameMarks name ∧ Follows extra
  | .closing name => IsWord nameMarks name
  | .block name extra => IsWord ['}'] name ∧ (∀ c ∈ extra.head?, isBlank c = true) ∧ '}' ∉ extra
  | .continuing name => IsWord ['}'] name
  | .ending name => IsWord ['}'] name
  | .marked expression => '}' ∉ expression
  | .plain expression => '}' ∉ expression ∧ ∀ c ∈ expression.head?, c ∉ markers

instance : (phrase : Phrase) → Decidable phrase.Fits
  | .text _ => inferInstanceAs (Decidable (_ ∧ _))
  | .opening _ _ => inferInstanceAs (Decidable (_ ∧ _))
  | .alone _ _ => inferInstanceAs (Decidable (_ ∧ _))
  | .closing _ => inferInstanceAs (Decidable (IsWord _ _))
  | .block _ _ => inferInstanceAs (Decidable (_ ∧ _ ∧ _))
  | .continuing _ => inferInstanceAs (Decidable (IsWord _ _))
  | .ending _ => inferInstanceAs (Decidable (IsWord _ _))
  | .marked _ => inferInstanceAs (Decidable (¬ _))
  | .plain _ => inferInstanceAs (Decidable (_ ∧ _))

def isText : Phrase → Bool
  | .text _ => true
  | _ => false

def bracket : Phrase → Option Bracket
  | .text _ => none
  | .opening _ _ | .alone _ _ | .closing _ => some .angle
  | .block _ _ | .continuing _ | .ending _ | .marked _ | .plain _ => some .curly

/-- The token of a phrase that is no text. -/
def token? (phrase : Phrase) : Option Token :=
  let build (position : Position) (name extra : List Char) : Option Token :=
    phrase.bracket.map fun bracket =>
      ⟨bracket, String.ofList name, position, String.ofList phrase.print, String.ofList extra⟩
  match phrase with
  | .text _ => none
  | .opening name extra => build .opening name extra
  | .alone name extra => build .alone name extra
  | .closing name => build .closing name []
  | .block name extra => build .opening name extra
  | .continuing name => build .continuing name []
  | .ending name => build .closing name []
  | .marked expression => build .alone [] expression
  | .plain expression => build .alone [] expression

def isCurly (phrase : Phrase) : Bool := phrase.bracket == some .curly

def item : Phrase → Item
  | .text content => .text content
  | .opening name extra => .tag (name ++ extra)
  | .alone name extra => .tag (name ++ (extra ++ ['/']))
  | .closing name => .tag ('/' :: name)
  | .block name extra => .directive ('#' :: (name ++ extra))
  | .continuing name => .directive (':' :: name)
  | .ending name => .directive ('/' :: name)
  | .marked expression => .directive ('@' :: expression)
  | .plain expression => .directive expression

theorem item_source (phrase : Phrase) : phrase.item.source = phrase.print := by
  cases phrase <;> simp [item, Item.source, print]

end Phrase

/-- Whether a directive stands at the start of a row. -/
def startsCurly : List Phrase → Bool
  | [] => false
  | phrase :: _ => phrase.isCurly

/-- What a row of phrases is read as, where `curly` says whether a directive stands before it. A
text of which nothing is left is no piece. -/
inductive ReadAs : (curly : Bool) → List Phrase → List Piece → Prop
  | nil (curly : Bool) : ReadAs curly [] []
  | text (curly : Bool) (content middle left : List Char) (rest : List Phrase)
      (pieces : List Piece)
      (start : Trims atStart curly content middle)
      (finish : Trims atEnd (startsCurly rest) middle left)
      (others : ReadAs false rest pieces) :
      ReadAs curly (.text content :: rest)
        ((if left = [] then [] else [.text (String.ofList left)]) ++ pieces)
  | token (curly : Bool) (phrase : Phrase) (token : Token) (rest : List Phrase)
      (pieces : List Piece) (found : phrase.token? = some token)
      (others : ReadAs phrase.isCurly rest pieces) :
      ReadAs curly (phrase :: rest) (.token token :: pieces)

theorem read_as_unique (curly : Bool) (phrases : List Phrase) (first second : List Piece)
    (one : ReadAs curly phrases first) (two : ReadAs curly phrases second) : first = second := by
  induction one generalizing second with
  | nil curly => cases two; rfl
  | text curly content middle left rest pieces start finish _ ih =>
      cases two with
      | text _ _ otherMiddle otherLeft _ _ otherStart otherFinish others =>
          have middles := trims_unique atStart at_start_cancels curly content middle otherMiddle
            start otherStart
          subst middles
          have lefts := trims_unique atEnd at_end_cancels (startsCurly rest) middle left otherLeft
            finish otherFinish
          subst lefts
          rw [ih _ others]
      | token _ _ _ _ _ found _ => cases found
  | token curly phrase token rest pieces found _ ih =>
      cases two with
      | text => cases found
      | token _ _ other _ _ otherFound others =>
          have same : token = other := Option.some.inj (found.symm.trans otherFound)
          rw [same, ih _ others]

theorem item_plain (phrase : Phrase) (fits : phrase.Fits) : phrase.item.Plain true := by
  have closed : ∀ name : List Char, IsWord ['}'] name → '}' ∉ name :=
    fun name word member => (word.2 '}' member).2 List.mem_cons_self
  cases phrase with
  | text content => exact ⟨fits.1, fun _ => fits.2⟩
  | opening name extra => exact plain_named true name extra fits.1 fits.2.closed
  | alone name extra =>
      apply plain_named true name (extra ++ ['/']) fits.1
      simp [fits.2.closed]
  | closing name => exact plain_closing true name fits
  | block name extra => exact ⟨rfl, by simp [closed name fits.1, fits.2.2]⟩
  | continuing name => exact ⟨rfl, by simp [closed name fits]⟩
  | ending name => exact ⟨rfl, by simp [closed name fits]⟩
  | marked expression =>
      have single : '}' ∉ expression := fits
      exact ⟨rfl, by simp [single]⟩
  | plain expression => exact ⟨rfl, fits.1⟩

-- A block directive without anything behind its name.
theorem block_alone (position : Position) (inside name : List Char) (word : IsWord ['}'] name) :
    block position inside name = directive position inside name [] := by
  have read := block_named position inside name [] word (by simp)
  rwa [List.append_nil] at read

theorem directive_unmarked (expression : List Char)
    (unmarked : ∀ c ∈ expression.head?, c ∉ Phrase.markers) :
    directiveOf expression = directive .alone expression [] expression := by
  unfold directiveOf
  split
  · exact absurd (unmarked '#' rfl) (by decide)
  · exact absurd (unmarked '/' rfl) (by decide)
  · exact absurd (unmarked ':' rfl) (by decide)
  · exact absurd (unmarked '@' rfl) (by decide)
  · rfl

theorem item_piece (phrase : Phrase) (token : Token) (fits : phrase.Fits)
    (found : phrase.token? = some token) : phrase.item.piece = .token token := by
  cases phrase with
  | text content => cases found
  | opening name extra =>
      cases found
      rw [Phrase.item, Item.piece, tag_opening name extra fits.1 fits.2]
      simp [openingTag, Phrase.print]
  | alone name extra =>
      cases found
      rw [Phrase.item, Item.piece, tag_alone name extra fits.1 fits.2]
      simp [aloneTag, Phrase.print]
  | closing name =>
      cases found
      rw [Phrase.item, Item.piece, tag_closing name fits]
      simp [closingTag, Phrase.print]
  | block name extra =>
      cases found
      rw [Phrase.item, Item.piece, directiveOf, block_named _ _ name extra fits.1 fits.2.1]
      simp [directive, Phrase.print]
  | continuing name =>
      cases found
      rw [Phrase.item, Item.piece, directiveOf, block_alone _ _ name fits]
      simp [directive, Phrase.print]
  | ending name =>
      cases found
      rw [Phrase.item, Item.piece, directiveOf, block_alone _ _ name fits]
      simp [directive, Phrase.print]
  | marked expression =>
      cases found
      rw [Phrase.item, Item.piece, directiveOf]
      simp [directive, Phrase.print]
  | plain expression =>
      cases found
      rw [Phrase.item, Item.piece, directive_unmarked expression fits.2]
      simp [directive, Phrase.print]

theorem text_piece_escaped (trimsStart trimsEnd : Bool) (content : List Char) :
    textPiece trimsStart trimsEnd (Entity.escapeChars false content) =
      let middle := if trimsStart then trimBreakStart content else content
      let left := if trimsEnd then trimBreakEnd middle else middle
      if left = [] then [] else [.text (String.ofList left)] := by
  rw [textPiece, Entity.unescape_escape_chars]

theorem trims_before (rest : List Phrase) :
    trimsBefore (rest.map Phrase.item) = !startsCurly rest := by
  cases rest with
  | nil => rfl
  | cons phrase rest => cases phrase <;> rfl

theorem item_pieces_token (layout : Bool) (phrase : Phrase) (token : Token) (rest : List Item)
    (fits : phrase.Fits) (found : phrase.token? = some token) :
    itemPieces layout (phrase.item :: rest) =
      .token token :: itemPieces (!phrase.isCurly) rest := by
  rw [← item_piece phrase token fits found]
  cases phrase with
  | text content => cases found
  | _ => rfl

theorem token_none (phrase : Phrase) (none : phrase.token? = none) :
    ∃ content, phrase = .text content := by
  cases phrase with
  | text content => exact ⟨content, rfl⟩
  | _ => cases none

theorem items_read_as (curly : Bool) (phrases : List Phrase)
    (fits : ∀ phrase ∈ phrases, phrase.Fits) :
    ReadAs curly phrases (itemPieces (!curly) (phrases.map Phrase.item)) := by
  induction phrases generalizing curly with
  | nil => exact .nil curly
  | cons phrase rest ih =>
      have others := fun curly => ih curly fun other member =>
        fits other (List.mem_cons_of_mem phrase member)
      rw [List.map_cons]
      cases found : phrase.token? with
      | some token =>
          rw [item_pieces_token _ phrase token _ (fits phrase List.mem_cons_self) found]
          exact .token curly phrase token rest _ found (others phrase.isCurly)
      | none =>
          obtain ⟨content, rfl⟩ := token_none phrase found
          rw [Phrase.item, itemPieces, text_piece_escaped, trims_before]
          apply ReadAs.text
          · exact trims_unless atStart trimBreakStart trim_start_loses curly content
          · exact trims_unless atEnd trimBreakEnd trim_end_loses (startsCurly rest) _
          · exact others false

/-- No two texts stand side by side. -/
def Apart : List Phrase → Prop
  | [] => True
  | [_] => True
  | phrase :: next :: rest => (phrase.isText = true → next.isText = false) ∧ Apart (next :: rest)

instance decidableApart : (phrases : List Phrase) → Decidable (Apart phrases)
  | [] => inferInstanceAs (Decidable True)
  | [_] => inferInstanceAs (Decidable True)
  | _ :: next :: rest =>
      have := decidableApart (next :: rest)
      inferInstanceAs (Decidable (_ ∧ _))

theorem apart_separated (phrases : List Phrase) (apart : Apart phrases) :
    Separated (phrases.map Phrase.item) := by
  have texts : ∀ phrase : Phrase, phrase.item.isText = phrase.isText := by
    intro phrase
    cases phrase <;> rfl
  induction phrases with
  | nil => trivial
  | cons phrase rest ih =>
      cases rest with
      | nil => exact ⟨fun _ => rfl, trivial⟩
      | cons next rest =>
          refine ⟨?_, ih apart.2⟩
          intro text
          exact (texts next).trans (apart.1 ((texts phrase).symm.trans text))

theorem source_phrases (phrases : List Phrase) :
    sourceOf (phrases.map Phrase.item) = phrases.flatMap Phrase.print := by
  rw [sourceOf, List.flatMap_map]
  exact congrArg (List.flatMap · phrases) (funext Phrase.item_source)

/-- Reading a printed row of phrases gives what the rules say of the row, and nothing else. -/
theorem tokenize_phrases_iff (phrases : List Phrase) (fits : ∀ phrase ∈ phrases, phrase.Fits)
    (apart : Apart phrases) (pieces : List Piece) :
    tokenize true (String.ofList (phrases.flatMap Phrase.print)) = pieces ↔
      ReadAs false phrases pieces := by
  have plain : ∀ item ∈ phrases.map Phrase.item, item.Plain true := by
    intro item member
    obtain ⟨phrase, inside, rfl⟩ := List.mem_map.mp member
    exact item_plain phrase (fits phrase inside)
  have read := pieces_items true true _ plain (apart_separated phrases apart)
  rw [source_phrases] at read
  have rules := items_read_as false phrases fits
  rw [tokenize, String.toList_ofList, read]
  constructor
  · rintro rfl
    exact rules
  · intro readAs
    exact read_as_unique false phrases _ _ rules readAs

/-- A row with layout at both ends of its texts, and brackets of either kind inside the other. -/
def samplePhrases : List Phrase :=
  [.opening "p".toList " a=\x7bb\x7d /x".toList, .text "\n  <x>\r\n".toList,
    .block "if".toList " a > b".toList, .text "\n y ".toList, .continuing "else".toList,
    .plain "c".toList, .text " \n".toList, .closing "p".toList, .alone "br".toList []]

theorem tokenize_phrases_iff_sample :
    (∀ phrase ∈ samplePhrases, phrase.Fits) ∧ Apart samplePhrases ∧
      ReadAs false samplePhrases
        (tokenize true (String.ofList (samplePhrases.flatMap Phrase.print))) :=
  ⟨by decide, by decide, (tokenize_phrases_iff samplePhrases (by decide) (by decide) _).mp rfl⟩

end MarkupTemplate.Scan
