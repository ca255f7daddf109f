import MarkupTemplate.Value.Basic

/-!
Variables in scope: the context of a template, and the bindings of the loops
around a place, the innermost first. A loop binding hides what has its name
further out, and lasts no longer than the body of the loop.
-/

namespace MarkupTemplate

structure Scope where
  context : Dict Value
  locals : List (String × Value)

namespace Scope

def root (context : Dict Value) : Scope := ⟨context, []⟩

def child (name : String) (value : Value) (scope : Scope) : Scope :=
  { scope with locals := (name, value) :: scope.locals }

def find (name : String) (scope : Scope) : Option Value :=
  (Dict.find name scope.locals).orElse fun _ => Dict.find name scope.context

theorem find_root (context : Dict Value) (name : String) :
    (root context).find name = Dict.find name context := rfl

theorem find_child (scope : Scope) (key name : String) (value : Value) :
    (scope.child key value).find name = if key = name then some value else scope.find name := by
  by_cases same : key = name <;> simp [find, child, Dict.find, same]

end Scope

end MarkupTemplate
