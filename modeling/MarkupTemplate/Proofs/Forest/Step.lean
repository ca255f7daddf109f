import MarkupTemplate.Forest

/-!
The steps of folding. Main statement: a node is added to the innermost block,
opens a block, closes the innermost one or goes past it, or gives it another slot,
and which of these it does is known from its position and from the open blocks.
-/

namespace MarkupTemplate.Nesting

/-- What taking a node can do to the open blocks. -/
inductive Taken (nesting : Nesting) : Node → Nesting → Prop
  | text (content : String) : Taken nesting (.text content) (nesting.push (.text content))
  | kept (token : Token) (slots : List (String × List Node))
      (stays : token.position = .alone ∨ (token.position = .opening ∧ ¬ nesting.depth < maxDepth)) :
      Taken nesting (.token token slots) (nesting.push (.token token slots))
  | opened (token : Token) (slots : List (String × List Node)) (opens : token.position = .opening)
      (room : nesting.depth < maxDepth) : Taken nesting (.token token slots) (nesting.opened token)
  | closed (token : Token) (slots : List (String × List Node)) (closes : token.position = .closing)
      (same : nesting.top.token.name = token.name) :
      Taken nesting (.token token slots) nesting.closed
  | ignored (token : Token) (slots : List (String × List Node)) (closes : token.position = .closing)
      (other : nesting.top.token.name ≠ token.name) : Taken nesting (.token token slots) nesting
  | turned (token : Token) (slots : List (String × List Node))
      (continues : token.position = .continuing) :
      Taken nesting (.token token slots) { nesting with top := nesting.top.turn token.name }

theorem take_taken (nesting : Nesting) (node : Node) : nesting.Taken node (nesting.take node) := by
  cases node with
  | text content => exact .text content
  | token token slots =>
      cases position : token.position with
      | opening =>
          by_cases room : nesting.depth < maxDepth
          · simpa [position, room] using Taken.opened token slots position room
          · simpa [position, room] using Taken.kept token slots (Or.inr ⟨position, room⟩)
      | closing =>
          by_cases same : nesting.top.token.name = token.name
          · simpa [position, same] using Taken.closed token slots position same
          · simpa [position, same] using Taken.ignored token slots position same
      | alone => simpa [position] using Taken.kept token slots (Or.inl position)
      | continuing => simpa [position] using Taken.turned token slots position

end MarkupTemplate.Nesting
