/-!
Tokens of the markup. A tag stands between angle brackets, a directive between
curly ones. Either opens a block, closes one, stands alone, or continues the block around it with
another slot.
-/

namespace MarkupTemplate

inductive Bracket where
  | angle
  | curly
  deriving DecidableEq

inductive Position where
  | opening
  | closing
  | alone
  | continuing
  deriving DecidableEq

structure Token where
  bracket : Bracket
  name : String
  position : Position
  /-- The token as it was written, with its brackets. -/
  source : String
  /-- The attributes of a tag, or the expression of a directive. -/
  extra : String
  deriving DecidableEq

/-- A piece of a source text: decoded content, or a token. -/
inductive Piece where
  | text (content : String)
  | token (token : Token)
  deriving DecidableEq

/-- The slot that every block starts with. -/
def defaultSlot : String := "default"

/-- The name of a tag that is written without one. -/
def anonymousName : String := "template"

end MarkupTemplate
