import MarkupTemplate.Proofs.Expr.Grammar
import MarkupTemplate.Proofs.Expr.Lexing
import MarkupTemplate.Text.Split

/-!
Expressions whose only symbol is the dot. The grammar has one tree for such
tokens: the members that the names behind the dots read, from the first operand on. Split at
its dots, the text of the tokens falls apart into the operand and the names.
-/

namespace MarkupTemplate.Expr

/-- Dots and names in turn. -/
inductive Dotted : List Token → List String → Prop where
  | nil : Dotted [] []
  | cons (dot name : Token) (rest : List Token) (names : List String) :
      dot.Is "." → name.kind = .identifier → Dotted rest names →
      Dotted (dot :: name :: rest) (name.text :: names)

/-- The member that a row of names reads from an operand. -/
def memberOf (base : Expr) (names : List String) : Expr := names.foldl .member base

theorem dotted_append (tokens : List Token) (names : List String) (dot name : Token)
    (dotted : Dotted tokens names) (is : dot.Is ".") (kind : name.kind = .identifier) :
    Dotted (tokens ++ [dot, name]) (names ++ [name.text]) := by
  induction dotted with
  | nil => exact .cons dot name [] [] is kind .nil
  | cons first second rest names firstIs secondKind _ ih =>
      exact .cons first second _ _ firstIs secondKind ih

/-- The dot is the only symbol among the tokens. -/
def OnlyDots (tokens : List Token) : Prop :=
  ∀ token ∈ tokens, token.kind = .symbol → token.text = "."

theorem only_dots_none (tokens : List Token) (token : Token) (symbol : String)
    (plain : OnlyDots tokens) (member : token ∈ tokens) (is : token.Is symbol)
    (other : symbol ≠ ".") : False :=
  other (is.2.symm.trans (plain token member is.1))

theorem only_dots_derived (phrase : Phrase) (tokens : List Token) (expr : Expr) (terms : Nat)
    (derives : Derives phrase tokens expr terms) (plain : OnlyDots tokens) :
    ∃ first rest base names, tokens = first :: rest ∧ ofToken first = .ok base ∧
      Dotted rest names ∧ expr = memberOf base names := by
  induction derives with
  | tighter _ _ _ _ _ ih => exact ih plain
  | unsigned _ _ _ _ ih => exact ih plain
  | unaccessed _ _ _ _ ih => exact ih plain
  | join level before after token symbol op _ _ _ _ _ mem is _ _ _ =>
      have other : symbol ≠ "." := by
        rw [((mem_operators_iff level symbol op).mp mem).1]
        cases op <;> decide
      exact (only_dots_none _ token symbol plain (by simp) is other).elim
  | signed token _ symbol op _ _ sign is _ _ =>
      have other : symbol ≠ "." := by
        rintro rfl
        cases (mem_signs_iff "." op).mp sign
      exact (only_dots_none _ token symbol plain (by simp) is other).elim
  | member tokens dot name base terms _ is kind ih =>
      obtain ⟨first, rest, operand, names, rfl, read, dotted, rfl⟩ :=
        ih fun token inside => plain token (List.mem_append_left _ inside)
      exact ⟨first, rest ++ [dot, name], operand, names ++ [name.text], rfl, read,
        dotted_append rest names dot name dotted is kind, by simp [memberOf]⟩
  | index _ _ opening _ _ _ _ _ _ is _ _ _ _ =>
      exact (only_dots_none _ opening "[" plain (by simp) is (by decide)).elim
  | literal token value denotes =>
      exact ⟨token, [], _, [], rfl, of_token_denotes token value denotes, .nil, rfl⟩
  | «variable» token kind free =>
      exact ⟨token, [], _, [], rfl, of_token_variable token kind free, .nil, rfl⟩
  | parenthesis _ opening _ _ _ is _ _ _ =>
      exact (only_dots_none _ opening "(" plain (by simp) is (by decide)).elim

theorem part_not_dot (c : Char) (part : isIdentifierPart c = true) : c ≠ '.' := by
  rintro rfl
  revert part
  decide

-- The texts of the names hold no dot, so that the splits are at the tokens that are dots.
theorem dotted_split (text : List Char) (tokens : List Token) (names : List String)
    (dotted : Dotted tokens names) (scanned : ∀ token ∈ tokens, ScannedIn text token)
    (front : List Char) (whole : '.' ∉ front) :
    splitAtChar '.' (front ++ tokens.flatMap (·.text.toList)) = front :: names.map String.toList := by
  induction dotted generalizing front with
  | nil => simpa using split_at_absent '.' front whole
  | cons dot name rest names is kind _ ih =>
      have named := identifier_text text name (scanned name (by simp)) kind
      have free : '.' ∉ name.text.toList := fun member =>
        part_not_dot '.' (identifier_parts _ named '.' member) rfl
      have behind := ih (fun token member => scanned token (by simp [member])) name.text.toList free
      have dotText : dot.text.toList = ['.'] := by rw [is.2]; rfl
      rw [List.flatMap_cons, List.flatMap_cons, dotText, List.singleton_append,
        split_at_separator '.' front _ whole, behind, List.map_cons]

end MarkupTemplate.Expr
