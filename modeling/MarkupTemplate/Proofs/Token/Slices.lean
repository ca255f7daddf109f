import MarkupTemplate.Proofs.Forest.Occurrences
import MarkupTemplate.Template.Attribute
import MarkupTemplate.Token.Scan

/-!
Tokens as slices of the source. What a token has between its brackets stands in the source as one
piece, and so does the text of its attributes or its expression, which is cut out of that, and the
expression of an attribute. Main statements: this holds of every token in the forest of a source,
outside templates all of them are tags, and attributes depend on nothing but slices of their text.
-/

namespace MarkupTemplate.Scan

/-- A tag, or in a template a directive, with an inside that stands in the text. -/
inductive CutFrom (templated : Bool) (text : List Char) : Token → Prop
  | tag (inside : List Char) : inside <:+: text → CutFrom templated text (tagOf inside)
  | directive (inside : List Char) : templated = true → inside <:+: text →
      CutFrom templated text (directiveOf inside)

theorem cut_further (templated : Bool) (part text : List Char) (token : Token)
    (within : part <:+: text) (cut : CutFrom templated part token) :
    CutFrom templated text token := by
  cases cut with
  | tag inside stands => exact .tag inside (stands.trans within)
  | directive inside on stands => exact .directive inside on (stands.trans within)

theorem angle_mark_cut (templated : Bool) (rest : List Char) (token : Token) (more : Nat)
    (found : angleMark? rest = some (.token token, more)) : CutFrom templated rest token := by
  unfold angleMark? at found
  extract_lets comment at found
  cases read : comment with
  | some length =>
      rw [read] at found
      cases found
  | none =>
      rw [read] at found
      obtain ⟨inside, closed, same⟩ := Option.map_eq_some_iff.mp found
      cases same
      exact .tag inside (text_before_begins _ _ _ closed).isInfix

theorem curly_mark_cut (rest : List Char) (token : Token) (more : Nat)
    (found : curlyMark? rest = some (.token token, more)) : CutFrom true rest token := by
  obtain ⟨inside, closed, same⟩ := Option.map_eq_some_iff.mp found
  cases same
  exact .directive inside rfl (text_before_begins _ _ _ closed).isInfix

theorem mark_cut (templated : Bool) (first : Char) (rest : List Char) (token : Token) (more : Nat)
    (found : markAt? templated first rest = some (.token token, more)) :
    CutFrom templated rest token := by
  unfold markAt? at found
  split at found
  · exact angle_mark_cut templated rest token more found
  · split at found
    · rename_i curly
      rw [curly.1]
      exact curly_mark_cut rest token more found
    · cases found

theorem token_not_text (trimsStart trimsEnd : Bool) (raw : List Char) (token : Token) :
    .token token ∉ textPiece trimsStart trimsEnd raw := by
  intro member
  unfold textPiece at member
  extract_lets decoded started content at member
  split at member
  · cases member
  · cases List.mem_singleton.mp member

theorem pieces_cut (templated : Bool) (skip : Nat) (layout : Bool) (pending text : List Char) :
    ∀ token, .token token ∈ piecesAfter templated skip layout pending text →
      CutFrom templated text token := by
  induction text generalizing skip layout pending with
  | nil =>
      intro token member
      cases skip <;> exact (token_not_text _ _ _ token member).elim
  | cons c rest ih =>
      have behind : rest <:+: c :: rest := (List.suffix_cons c rest).isInfix
      intro token member
      cases skip with
      | succ skip => exact cut_further _ _ _ _ behind (ih skip layout pending token member)
      | zero =>
          cases found : markAt? templated c rest with
          | none =>
              rw [piecesAfter, found] at member
              exact cut_further _ _ _ _ behind (ih 0 layout (c :: pending) token member)
          | some marked =>
              obtain ⟨mark, more⟩ := marked
              rw [piecesAfter, found] at member
              apply cut_further _ _ _ _ behind
              rcases List.mem_append.mp member with before | later
              · rcases List.mem_append.mp before with text | own
                · exact (token_not_text _ _ _ token text).elim
                · cases mark with
                  | comment => cases own
                  | token here =>
                      cases List.mem_singleton.mp own
                      exact mark_cut templated c rest token more found
              · exact ih more _ [] token later

theorem split_slash_begins (body : List Char) : (splitSlash body).1 <+: body := by
  rw [splitSlash]
  split
  · exact List.dropLast_prefix body
  · exact List.prefix_refl body

theorem tag_extra (inside : List Char) : (tagOf inside).extra.toList <:+: inside := by
  simp only [tagOf, String.toList_ofList]
  apply List.IsInfix.trans (trim_end_begins _).isInfix
  apply List.IsInfix.trans (split_slash_begins _).isInfix
  apply List.IsInfix.trans (List.dropWhile_suffix isNameChar).isInfix
  split
  · exact (List.drop_suffix 1 inside).isInfix
  · exact List.infix_refl inside

theorem block_extra (position : Position) (inside body : List Char) (behind : body <:+ inside) :
    (block position inside body).extra.toList <:+: inside := by
  rw [block, directive, String.toList_ofList]
  exact ((List.dropWhile_suffix isWordChar).trans behind).isInfix

theorem directive_extra (inside : List Char) : (directiveOf inside).extra.toList <:+: inside := by
  unfold directiveOf
  split
  · exact block_extra _ _ _ (List.suffix_cons _ _)
  · exact block_extra _ _ _ (List.suffix_cons _ _)
  · exact block_extra _ _ _ (List.suffix_cons _ _)
  · rw [directive, String.toList_ofList]
    exact (List.suffix_cons _ _).isInfix
  · simp only [directive, String.toList_ofList, List.infix_refl]

theorem cut_extra (templated : Bool) (text : List Char) (token : Token)
    (cut : CutFrom templated text token) : token.extra.toList <:+: text := by
  cases cut with
  | tag inside stands => exact (tag_extra inside).trans stands
  | directive inside _ stands => exact (directive_extra inside).trans stands

/-- Folding keeps what the tokenizer has cut out. -/
theorem forest_cut (templated : Bool) (source : String) (token : Token)
    (member : .token token ∈ Node.everything (fold (tokenize templated source))) :
    CutFrom templated source.toList token :=
  pieces_cut templated 0 true [] source.toList token (mem_fold _ _ member)

end MarkupTemplate.Scan

namespace MarkupTemplate.Given

variable (templated : Bool)

/-- An attribute that is not bare is given behind some place of the text. -/
theorem read_behind (skip : Nat) (text : List Char) : ∀ read ∈ readAfter templated skip text,
    read.2 = .bare ∨ ∃ behind, behind <:+ text ∧ behindKey? templated behind = some read.2 := by
  induction text generalizing skip with
  | nil => cases skip <;> exact nofun
  | cons c rest ih =>
      have further : rest <:+ c :: rest := List.suffix_cons c rest
      have later : ∀ skip, ∀ read ∈ readAfter templated skip rest, read.2 = .bare ∨
          ∃ behind, behind <:+ c :: rest ∧ behindKey? templated behind = some read.2 := by
        intro skip read member
        rcases ih skip read member with bare | ⟨behind, stands, found⟩
        · exact .inl bare
        · exact .inr ⟨behind, stands.trans further, found⟩
      cases skip with
      | succ skip => exact later skip
      | zero =>
          rw [readAfter]
          by_cases key : isKeyChar c = true
          · rw [if_pos key]
            intro read member
            rcases List.mem_cons.mp member with rfl | behind
            · cases found : behindKey? templated (rest.drop (rest.takeWhile isKeyChar).length) with
              | none => exact .inl rfl
              | some given => exact .inr ⟨_, (List.drop_suffix _ rest).trans further, found⟩
            · exact later _ read behind
          · rw [if_neg key]
            exact later 0

theorem behind_key_expression (text inside : List Char)
    (found : behindKey? templated text = some (.expression inside)) :
    templated = true ∧ inside <:+: text := by
  unfold behindKey? at found
  split at found
  · obtain ⟨_, _, other⟩ := Option.map_eq_some_iff.mp found
    cases other
  · obtain ⟨_, _, other⟩ := Option.map_eq_some_iff.mp found
    cases other
  · rename_i rest
    split at found
    · rename_i on
      obtain ⟨piece, kept, same⟩ := Option.map_eq_some_iff.mp found
      cases same
      constructor
      · exact on
      · have before := text_before_begins _ rest inside (Option.filter_eq_some_iff.mp kept).1
        have behind : rest <:+ '=' :: '\x7b' :: rest := List.suffix_append ['=', '\x7b'] rest
        exact before.isInfix.trans behind.isInfix
    · cases found
  · cases found

/-- An expression that is read off a text stands in it, and the text is one of a template. -/
theorem expression_within (skip : Nat) (text key inside : List Char)
    (member : (key, expression inside) ∈ readAfter templated skip text) :
    templated = true ∧ inside <:+: text := by
  rcases read_behind templated skip text _ member with bare | ⟨behind, stands, found⟩
  · cases bare
  · have expression := behind_key_expression templated behind inside found
    exact ⟨expression.1, expression.2.trans stands.isInfix⟩

theorem entry_agree (left right : String → Value) (key : List Char) (given : Given)
    (same : ∀ inside, given = .expression inside →
      left (String.ofList inside) = right (String.ofList inside)) :
    entry left key given = entry right key given := by
  cases given with
  | bare => rfl
  | quoted text => rfl
  | expression inside => rw [entry, entry, same inside rfl]

/-- Attributes are the same wherever the slices of their text have the same values, and outside
templates everywhere. -/
theorem read_attrs_agree (left right : String → Value) (extra : String)
    (same : templated = true → ∀ text : String, text.toList <:+: extra.toList →
      left text = right text) :
    readAttrs templated left extra = readAttrs templated right extra := by
  rw [readAttrs, readAttrs]
  apply congrArg
  apply List.map_congr_left
  rintro ⟨key, given⟩ member
  apply entry_agree
  rintro inside rfl
  have stands := expression_within templated 0 _ key inside member
  apply same stands.1
  rw [String.toList_ofList]
  exact stands.2

end MarkupTemplate.Given
