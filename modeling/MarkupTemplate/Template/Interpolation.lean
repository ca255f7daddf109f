import MarkupTemplate.Expr.Eval
import MarkupTemplate.Text.Split

/-!
Values that a template prints. An expression that fails, or is null, prints
nothing, so data of the wrong shape never stops a rendering. A dotted path of plain names is
looked up name by name, without the expression parser.
-/

namespace MarkupTemplate

def nothing : Value := .string ""

/-- The value of an expression, or the empty text. -/
def Scope.evaluate (scope : Scope) (text : String) : Value :=
  match Expr.evaluate text scope with
  | .ok .null => nothing
  | .ok value => value
  | .error _ => nothing

def isPathStart (c : Char) : Bool := c.isAlpha || c == '_'

def isPathPart (c : Char) : Bool := c.isAlphanum || c == '_' || c == '.'

def isPath : List Char → Bool
  | [] => false
  | first :: rest => isPathStart first && rest.all isPathPart

/-- Follows member names from a value; a missing or null step ends in the empty text. -/
def followPath : Option Value → List String → Value
  | none, _ => nothing
  | some .null, _ => nothing
  | some value, [] => value
  | some value, name :: rest => followPath (value.member name) rest

-- Reading one more member on either side.
theorem follow_path_step (found : Option Value) (name : String) (rest : List String) :
    followPath found (name :: rest) =
      followPath (found.bind fun value => value.member name) rest := by
  cases found with
  | none => cases rest <;> rfl
  | some value =>
      cases value with
      | null => cases rest <;> rfl
      | bool | int | float | string | list | map | record => rfl

/-- The names of a dotted path. -/
def pathNames (path : List Char) : List String := (splitAtChar '.' path).map String.ofList

def Scope.lookUpPath (scope : Scope) (path : List Char) : Value :=
  match pathNames path with
  | [] => nothing
  | first :: rest => followPath (scope.find first) rest

/-- The value that an expression prints. -/
def Scope.interpolate (scope : Scope) (text : String) : Value :=
  let trimmed := trim text.toList
  if isPath trimmed then scope.lookUpPath trimmed else scope.evaluate (String.ofList trimmed)

end MarkupTemplate
