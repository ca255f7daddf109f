import MarkupTemplate.Text.Blank
import MarkupTemplate.Text.Split

/-!
Selectors. A query is a list of alternatives between commas. An alternative is
a row of tags with combinators between them: `>` for a child, `+` for the next sibling, `~`
for any later sibling, and a space for any element inside. Spaces around the other
three mean nothing.
-/

namespace MarkupTemplate

inductive Combinator where
  | descendant
  | child
  | adjacent
  | sibling
  deriving DecidableEq

/-- A tag or `*`, and how the element relates to the one before it. -/
structure Segment where
  tag : String
  combinator : Combinator
  deriving DecidableEq

namespace Selector

def Combinator.ofSymbol (symbol : Char) : Option Combinator :=
  if symbol = '>' then some .child
  else if symbol = '+' then some .adjacent
  else if symbol = '~' then some .sibling
  else none

def spaces (text : List Char) : Nat := (text.takeWhile (· == ' ')).length

/-- The combinator at the start of a text, and its length with the spaces around it. -/
def combinatorAt? (text : List Char) : Option (Combinator × Nat) :=
  let before := spaces text
  let symbol :=
    match text.drop before with
    | [] => none
    | c :: rest =>
        (Combinator.ofSymbol c).map fun combinator => (combinator, before + 1 + spaces rest)
  match symbol with
  | some found => some found
  | none => if before = 0 then none else some (.descendant, before)

/-- Reads on behind `skip` characters of a combinator; `tag` holds the tag so far in reverse. -/
def segmentsAfter : (skip : Nat) → (combinator : Combinator) → (tag : List Char) → List Char →
    List Segment
  | _, combinator, tag, [] => [⟨String.ofList tag.reverse, combinator⟩]
  | skip + 1, combinator, tag, _ :: rest => segmentsAfter skip combinator tag rest
  | 0, combinator, tag, c :: rest =>
      match combinatorAt? (c :: rest) with
      | none => segmentsAfter 0 combinator (c :: tag) rest
      | some (next, length) =>
          ⟨String.ofList tag.reverse, combinator⟩ :: segmentsAfter (length - 1) next [] rest

/-- The segments of one alternative. -/
def parseGroup (text : List Char) : List Segment := segmentsAfter 0 .descendant [] (trim text)

/-- The alternatives of a query. -/
def parse (query : String) : List (List Segment) := (splitAtChar ',' query.toList).map parseGroup

end Selector

end MarkupTemplate
