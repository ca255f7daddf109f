import MarkupTemplate.Proofs.Scope.Mentions

/-!
Chains of bindings against copies of the context. An evaluation sees of a scope only what each name
finds in it, and every part of a template passes on no more than that. Main statement: inside a
chain of bindings a forest produces what it produces in a copy of the context into which the
bindings are written one after another.
-/

namespace MarkupTemplate

namespace Scope

/-- Every name finds the same value in both scopes. -/
def Agree (left right : Scope) : Prop := ∀ name, left.find name = right.find name

/-- The scope inside bindings, the last of them innermost. -/
def inside (scope : Scope) (bindings : List (String × Value)) : Scope :=
  bindings.foldl (fun outer binding => outer.child binding.1 binding.2) scope

-- A binding hides what it would overwrite.
theorem child_copied {scope : Scope} {context : Dict Value} (agree : Agree scope (.root context))
    (name : String) (value : Value) :
    Agree (scope.child name value) (.root (Dict.insert name value context)) := by
  intro key
  rw [find_child, find_root, Dict.find_insert, agree key, find_root]

theorem inside_copied (bindings : List (String × Value)) (scope : Scope) (context : Dict Value)
    (agree : Agree scope (.root context)) :
    Agree (scope.inside bindings) (.root (Dict.insertAll bindings context)) := by
  induction bindings generalizing scope context with
  | nil => exact agree
  | cons binding rest ih => exact ih _ _ (child_copied agree binding.1 binding.2)

end Scope

open Scope (Agree)

namespace Reader

theorem builtins_by_name : builtins.GoBy fun _ => True := builtins_go_by _

-- Whatever stands in a template, scopes that agree on every name show it the same.
theorem forest_by_name (reader : Reader) (directives : reader.directives.GoBy fun _ => True)
    (nodes : List Node) (left right : Scope) (agree : Agree left right) :
    reader.forestBody nodes left = reader.forestBody nodes right := by
  apply forest_goes_by reader directives nodes
  · intro token _ name _
    trivial
  · intro name _
    exact agree name

/-- A chain of bindings over a context shows every forest what a copy of the context shows it, into
which the bindings are written in order. -/
theorem forest_body_copied (templated : Bool) (nodes : List Node) (context : Dict Value)
    (bindings : List (String × Value)) :
    (Reader.mk templated builtins).forestBody nodes ((Scope.root context).inside bindings) =
      (Reader.mk templated builtins).forestBody nodes
        (.root (Dict.insertAll bindings context)) := by
  have agree := Scope.inside_copied bindings (.root context) context fun _ => rfl
  exact forest_by_name _ builtins_by_name nodes _ _ agree

end Reader

end MarkupTemplate
