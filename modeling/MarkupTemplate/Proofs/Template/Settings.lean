import MarkupTemplate.Proofs.Forest.Building
import MarkupTemplate.Proofs.Token.Printable
import MarkupTemplate.Template.Render

/-!
Attributes as they are printed. A setting is a text, a truth value or an
expression; printing puts it behind a blank and its key. Reading what follows
the name of a tag gives back every key with the value of its setting, so that a tag which stands
alone is one element with these values.
-/

namespace MarkupTemplate

/-- What the print of an attribute says of its key. -/
inductive Setting where
  | text (content : String)
  | yes
  | no
  | expression (source : String)

namespace Given

/-- What stands behind a key. -/
def behind : Given → List Char
  | .bare => []
  | .quoted text => '=' :: '"' :: (text ++ ['"'])
  | .expression text => '=' :: '{' :: (text ++ ['}'])

def Closed (templated : Bool) : Given → Prop
  | .bare => True
  | .quoted text => '"' ∉ text
  | .expression text => templated = true ∧ text ≠ [] ∧ '}' ∉ text

theorem length_behind (given : Given) : given.behind.length = given.length := by
  cases given <;> simp [behind, length]

theorem behind_key (templated : Bool) (given : Given) (rest : List Char)
    (closed : given.Closed templated) (begins : ∀ c ∈ rest.head?, isBlank c = true) :
    (behindKey? templated (given.behind ++ rest)).getD .bare = given := by
  cases given with
  | bare =>
      -- Only an equals sign could give the key something, and the text behind it is blank.
      have none : behindKey? templated rest = none := by
        cases rest with
        | nil => rfl
        | cons c rest =>
            have other : c ≠ '=' := by
              rintro rfl
              exact absurd (begins '=' rfl) (by decide)
            unfold behindKey?
            split <;> simp_all
      rw [behind, List.nil_append, none]
      rfl
  | quoted text =>
      simp [behind, behindKey?, upTo, text_before_single '"' text rest closed]
  | expression text =>
      obtain ⟨rfl, filled, single⟩ := closed
      simp [behind, behindKey?, upTo, text_before_single '}' text rest single, Option.filter, filled]

theorem read_skip (templated : Bool) (skip : Nat) (text : List Char) :
    readAfter templated skip text = readAfter templated 0 (text.drop skip) := by
  induction text generalizing skip with
  | nil => simp [readAfter]
  | cons c rest ih =>
      cases skip with
      | zero => rfl
      | succ skip => rw [readAfter, ih, List.drop_succ_cons]

-- Reading goes on behind an attribute where a blank or nothing follows.
theorem read_attribute (templated : Bool) (key : List Char) (given : Given) (rest : List Char)
    (some : key ≠ []) (letters : ∀ c ∈ key, isKeyChar c = true) (closed : given.Closed templated)
    (begins : ∀ c ∈ rest.head?, isBlank c = true) :
    readAfter templated 0 (' ' :: (key ++ (given.behind ++ rest))) =
      (key, given) :: readAfter templated 0 rest := by
  have stops : ∀ c ∈ (given.behind ++ rest).head?, isKeyChar c = false := by
    cases given with
    | bare => exact fun c first => by simp [isKeyChar, begins c first]
    | quoted text => simp [behind, isKeyChar]
    | expression text => simp [behind, isKeyChar]
  rw [readAfter, if_neg (by simp [isKeyChar])]
  cases key with
  | nil => exact (some rfl).elim
  | cons c key =>
      have spans := span_word isKeyChar key (given.behind ++ rest)
        (fun d member => letters d (List.mem_cons_of_mem c member)) stops
      have read := behind_key templated given rest closed begins
      have last : (key ++ (given.behind ++ rest)).drop (key.length + given.length) = rest := by
        rw [← length_behind, ← List.append_assoc, ← List.length_append, List.drop_left]
      rw [List.cons_append, readAfter, if_pos (letters c List.mem_cons_self)]
      simp only [spans.1, List.drop_left, read]
      rw [read_skip, last]

end Given

namespace Setting

def print (key : String) : Setting → String
  | .text content => " " ++ key ++ "=\"" ++ Entity.escape content true ++ "\""
  | .yes => " " ++ key
  | .no => " no-" ++ key
  | .expression source => " " ++ key ++ "=\x7b" ++ source ++ "\x7d"

def value (interpolate : String → Value) : Setting → Value
  | .text content => .string content
  | .yes => .bool true
  | .no => .bool false
  | .expression source => interpolate source

/-- The characters that no key has. -/
def keyMarks (templated : Bool) : List Char :=
  ['=', '/', '<', '>', '"', '\''] ++ if templated then ['{', '}'] else []

def Fits (templated : Bool) (key : String) : Setting → Prop
  | .text _ => True
  | .yes => ¬ ['n', 'o', '-'] <+: key.toList
  | .no => True
  | .expression source =>
      templated = true ∧ source.toList ≠ [] ∧ '}' ∉ source.toList ∧ '>' ∉ source.toList

instance (templated : Bool) (key : String) : (setting : Setting) →
    Decidable (setting.Fits templated key)
  | .text _ => inferInstanceAs (Decidable True)
  | .yes => inferInstanceAs (Decidable (¬ _))
  | .no => inferInstanceAs (Decidable True)
  | .expression _ => inferInstanceAs (Decidable (_ ∧ _ ∧ _ ∧ _))

/-- An attribute whose print can be read back. -/
def Legible (templated : Bool) (entry : String × Setting) : Prop :=
  IsWord (keyMarks templated) entry.1.toList ∧ entry.2.Fits templated entry.1

instance (templated : Bool) (entry : String × Setting) : Decidable (Legible templated entry) :=
  inferInstanceAs (Decidable (_ ∧ _))

def printAll (settings : List (String × Setting)) : String :=
  String.join (settings.map fun entry => entry.2.print entry.1)

def values (interpolate : String → Value) (settings : List (String × Setting)) : Dict Value :=
  settings.map fun entry => (entry.1, entry.2.value interpolate)

/-- The key with its mark of a false one. -/
def shown (key : String) : Setting → List Char
  | .no => 'n' :: 'o' :: '-' :: key.toList
  | _ => key.toList

def given : Setting → Given
  | .text content => .quoted (Entity.escapeChars true content.toList)
  | .yes => .bare
  | .no => .bare
  | .expression source => .expression source.toList

theorem print_chars (key : String) (setting : Setting) :
    (setting.print key).toList = ' ' :: (setting.shown key ++ setting.given.behind) := by
  cases setting <;> simp [print, shown, given, Given.behind, Entity.escape]

theorem given_closed (templated : Bool) (key : String) (setting : Setting)
    (fits : setting.Fits templated key) : setting.given.Closed templated := by
  cases setting with
  | text content => exact Entity.not_mem_escape_chars true _ '"' (Or.inr (Or.inr ⟨rfl, rfl⟩))
  | yes => trivial
  | no => trivial
  | expression source => exact ⟨fits.1, fits.2.1, fits.2.2.1⟩

theorem shown_word (templated : Bool) (key : String) (setting : Setting)
    (word : IsWord (keyMarks templated) key.toList) :
    IsWord (keyMarks templated) (setting.shown key) := by
  cases setting with
  | no =>
      refine ⟨List.cons_ne_nil _ _, ?_⟩
      have marks : IsWord (keyMarks templated) ['n', 'o', '-'] := by
        cases templated <;> decide
      intro c member
      have split : c ∈ ['n', 'o', '-'] ++ key.toList := member
      rcases List.mem_append.mp split with member | member
      · exact marks.2 c member
      · exact word.2 c member
  | _ => exact word

theorem entry_given (interpolate : String → Value) (templated : Bool) (key : String)
    (setting : Setting) (fits : setting.Fits templated key) :
    Given.entry interpolate (setting.shown key) setting.given =
      (key, setting.value interpolate) := by
  cases setting with
  | text content =>
      simp [Given.entry, shown, given, value, Entity.unescape_escape_chars]
  | yes =>
      simp only [shown, given, value, Given.entry]
      split
      · rename_i name begins
        exact (fits ⟨name, begins.symm⟩).elim
      · simp
  | no => simp [Given.entry, shown, given, value]
  | expression source => simp [Given.entry, shown, given, value]

theorem key_char (templated : Bool) (word : List Char) (is : IsWord (keyMarks templated) word)
    (c : Char) (member : c ∈ word) : Given.isKeyChar c = true := by
  obtain ⟨dark, unmarked⟩ := is.2 c member
  have other : c ≠ '=' := by
    rintro rfl
    exact unmarked (by cases templated <;> decide)
  simp [Given.isKeyChar, dark, other]

theorem print_all_cons (entry : String × Setting) (rest : List (String × Setting)) :
    (printAll (entry :: rest)).toList = (entry.2.print entry.1).toList ++ (printAll rest).toList := by
  simp [printAll]

theorem print_all_begins (settings : List (String × Setting)) :
    ∀ c ∈ (printAll settings).toList.head?, isBlank c = true := by
  cases settings with
  | nil => simp [printAll]
  | cons entry rest =>
      rw [print_all_cons, print_chars]
      simp

theorem read_print_all (templated : Bool) (settings : List (String × Setting))
    (legible : ∀ entry ∈ settings, Legible templated entry) :
    Given.readAfter templated 0 (printAll settings).toList =
      settings.map fun entry => (entry.2.shown entry.1, entry.2.given) := by
  induction settings with
  | nil => rfl
  | cons entry rest ih =>
      obtain ⟨word, fits⟩ := legible entry List.mem_cons_self
      have shownWord := shown_word templated entry.1 entry.2 word
      have read := Given.read_attribute templated (entry.2.shown entry.1) entry.2.given
        (printAll rest).toList shownWord.1 (key_char templated _ shownWord)
        (given_closed templated entry.1 entry.2 fits) (print_all_begins rest)
      rw [print_all_cons, print_chars, List.cons_append, List.append_assoc, read,
        ih fun other member => legible other (List.mem_cons_of_mem entry member)]
      rfl

-- Reading the attributes of a tag undoes printing them.
theorem read_attrs_print (templated : Bool) (interpolate : String → Value)
    (settings : List (String × Setting)) (legible : ∀ entry ∈ settings, Legible templated entry)
    (distinct : (settings.map Prod.fst).Nodup) :
    readAttrs templated interpolate (printAll settings) = values interpolate settings := by
  have entries : (settings.map fun entry => (entry.2.shown entry.1, entry.2.given)).map
      (fun read => Given.entry interpolate read.1 read.2) = values interpolate settings := by
    rw [List.map_map]
    apply List.map_congr_left
    intro entry member
    exact entry_given interpolate templated entry.1 entry.2 (legible entry member).2
  have single : Dict.Distinct (values interpolate settings) := by
    simpa [Dict.Distinct, Dict.keys, values, Function.comp_def] using distinct
  rw [readAttrs, read_print_all templated settings legible, entries,
    Dict.ofList_distinct _ single]

theorem behind_unmarked (templated : Bool) (key : String) (setting : Setting)
    (fits : setting.Fits templated key) : '>' ∉ setting.given.behind := by
  cases setting with
  | text content =>
      have escaped := Entity.not_mem_escape_chars true content.toList '>' (Or.inr (Or.inl rfl))
      simp [given, Given.behind, escaped]
  | yes => simp [given, Given.behind]
  | no => simp [given, Given.behind]
  | expression source => simp [given, Given.behind, fits.2.2.2]

theorem last_behind (setting : Setting) :
    setting.given.behind = [] ∨
      ∃ init last, setting.given.behind = init ++ [last] ∧ isBlank last = false ∧ last ≠ '/' := by
  cases setting with
  | text content =>
      exact Or.inr ⟨'=' :: '"' :: Entity.escapeChars true content.toList, '"', rfl, by decide,
        by decide⟩
  | yes => exact Or.inl rfl
  | no => exact Or.inl rfl
  | expression source =>
      exact Or.inr ⟨'=' :: '{' :: source.toList, '}', rfl, by decide, by decide⟩

theorem print_follows (templated : Bool) (entry : String × Setting)
    (legible : Legible templated entry) : Scan.Follows (entry.2.print entry.1).toList := by
  obtain ⟨word, fits⟩ := legible
  have shownWord := shown_word templated entry.1 entry.2 word
  have unmarked : ∀ c ∈ entry.2.shown entry.1, isBlank c = false ∧ c ≠ '/' ∧ c ≠ '>' := by
    intro c member
    obtain ⟨dark, outside⟩ := shownWord.2 c member
    simp only [keyMarks, List.mem_append, List.mem_cons, not_or] at outside
    exact ⟨dark, outside.1.2.1, outside.1.2.2.2.1⟩
  rw [print_chars]
  refine ⟨by simp, ?_, ?_⟩
  · rcases last_behind entry.2 with nothing | ⟨init, last, same, dark, other⟩
    · -- The key comes last, and it is not empty.
      intro c last
      have inKey : c ∈ (entry.2.shown entry.1).getLast? := by
        rwa [nothing, List.append_nil, List.getLast?_cons_of_ne_nil shownWord.1] at last
      obtain ⟨dark, other, _⟩ := unmarked c (List.mem_of_getLast? inKey)
      exact ⟨dark, other⟩
    · intro c final
      rw [same, ← List.append_assoc, ← List.cons_append, List.getLast?_concat] at final
      cases final
      exact ⟨dark, other⟩
  · intro member
    rcases List.mem_cons.mp member with blank | member
    · cases blank
    · rcases List.mem_append.mp member with member | member
      · exact (unmarked '>' member).2.2 rfl
      · exact behind_unmarked templated entry.1 entry.2 fits member

theorem print_all_follows (templated : Bool) (settings : List (String × Setting))
    (legible : ∀ entry ∈ settings, Legible templated entry) :
    Scan.Follows (printAll settings).toList := by
  induction settings with
  | nil => exact Scan.follows_nothing
  | cons entry rest ih =>
      rw [print_all_cons]
      exact Scan.follows_append _ _ (print_follows templated entry (legible entry List.mem_cons_self))
        (ih fun other member => legible other (List.mem_cons_of_mem entry member))

-- A tag produces one element, with the values of its settings as attributes.
theorem tag_produces (reader : Reader) (token : Token) (slots : Dict Body) (scope : Scope)
    (attrs : List (String × Setting)) (angle : token.bracket = .angle)
    (extra : token.extra = printAll attrs)
    (legible : ∀ entry ∈ attrs, Legible reader.templated entry)
    (distinct : (attrs.map Prod.fst).Nodup) :
    reader.tokenBody token slots scope =
      [Element.new token.name (values scope.interpolate attrs)
        (slotBody slots defaultSlot scope)] := by
  have read := read_attrs_print reader.templated scope.interpolate attrs legible distinct
  simp only [Reader.tokenBody, angle, extra, read]

/-- A tag that stands alone. -/
def aloneMarkup (name : String) (settings : List (String × Setting)) : String :=
  "<" ++ name ++ printAll settings ++ "/>"

theorem alone_tokenized (templated : Bool) (name : String) (settings : List (String × Setting))
    (word : IsWord nameMarks name.toList)
    (legible : ∀ entry ∈ settings, Legible templated entry) :
    tokenize templated (aloneMarkup name settings) =
      [.token (Scan.aloneTag name.toList (printAll settings).toList)] := by
  have follows := print_all_follows templated settings legible
  have ends : '>' ∉ (printAll settings).toList ++ ['/'] := by simpa using follows.closed
  have printable := Scan.printable_tag templated _ _
    (Scan.plain_named templated name.toList _ word ends) (Scan.printable_nil templated)
  have printed : (aloneMarkup name settings).toList =
      Scan.sourceOf [.tag (name.toList ++ ((printAll settings).toList ++ ['/']))] := by
    simp [aloneMarkup, Scan.sourceOf, Scan.Item.source]
  rw [Scan.tokenize_items templated _ _ printed printable, List.map_singleton, Scan.Item.piece,
    Scan.tag_alone name.toList _ word follows]

theorem alone_renders (reader : Reader) (name : String) (settings : List (String × Setting))
    (context : Dict Value) (word : IsWord nameMarks name.toList)
    (legible : ∀ entry ∈ settings, Legible reader.templated entry)
    (distinct : (settings.map Prod.fst).Nodup) :
    reader.render (aloneMarkup name settings) context =
      [Element.new name (values (Scope.root context).interpolate settings) []] := by
  have pieces := alone_tokenized reader.templated name settings word legible
  have forest := fold_builds 0 _ _
    (builds_alone 0 (Scan.aloneTag name.toList (printAll settings).toList) rfl) (by decide)
  have produced := tag_produces reader (Scan.aloneTag name.toList (printAll settings).toList) []
    (.root context) settings rfl String.ofList_toList legible distinct
  have named : (Scan.aloneTag name.toList (printAll settings).toList).name = name :=
    String.ofList_toList
  rw [Reader.render, pieces, forest, Reader.forest_cons, Reader.nodeBody, Reader.slotBodies,
    produced, named]
  rfl

end Setting

end MarkupTemplate
