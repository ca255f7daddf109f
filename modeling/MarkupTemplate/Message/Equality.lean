import MarkupTemplate.Message.Basic
import MarkupTemplate.Value.Equality

/-!
Equality of message elements: the same kind with equal content, and equal
children in the same order. The attributes of an extension are equal in any order.
-/

namespace MarkupTemplate

def Message.Kind.equals : Kind → Kind → Bool
  | .text left, .text right => left == right
  | .at left, .at right => left == right
  | .sharp left, .sharp right => left == right
  | .link left, .link right => left == right
  | .resource medium left, .resource otherMedium right => medium == otherMedium && left == right
  | .styled left, .styled right => left == right
  | .lineBreak, .lineBreak => true
  | .paragraph, .paragraph => true
  | .message left, .message right => left == right
  | .quote, .quote => true
  | .author left, .author right => left == right
  | .extension tag attrs, .extension otherTag otherAttrs =>
      tag == otherTag && Value.equals (.map attrs) (.map otherAttrs)
  | _, _ => false

namespace MessageElement

mutual

def equals : MessageElement → MessageElement → Bool
  | ⟨kind, children⟩, ⟨otherKind, otherChildren⟩ =>
      kind.equals otherKind && allEqual children otherChildren

def allEqual : List MessageElement → List MessageElement → Bool
  | [], [] => true
  | left :: leftRest, right :: rightRest => equals left right && allEqual leftRest rightRest
  | _, _ => false

end

end MessageElement

end MarkupTemplate
