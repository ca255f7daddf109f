import MarkupTemplate.Element.Basic
import MarkupTemplate.Value.Equality

/-!
Equality of elements: the same kind, equal attributes in any order, and equal
children in the same order.
-/

namespace MarkupTemplate.Element

mutual

def equals : Element → Element → Bool
  | ⟨kind, attrs, children⟩, ⟨otherKind, otherAttrs, otherChildren⟩ =>
      kind == otherKind && Value.equals (.map attrs) (.map otherAttrs) &&
        allEqual children otherChildren

def allEqual : List Element → List Element → Bool
  | [], [] => true
  | left :: leftRest, right :: rightRest => equals left right && allEqual leftRest rightRest
  | _, _ => false

end

end MarkupTemplate.Element
