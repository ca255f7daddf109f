import MarkupTemplate.Text.Quoted

/-!
Why a value cannot become typed data, and why a record cannot be bound. An error
inside a nested record carries the error of that record.
-/

namespace MarkupTemplate

mutual

inductive ConvertError where
  | unsupported (kind target : String)
  | unreadable (text target : String)
  | outOfRange (text target : String)
  | negative (text target : String)
  | record (error : BindError)

inductive BindError where
  | noTarget
  | missing (field : String) (keys : List String)
  | field (name : String) (error : ConvertError)

end

mutual

def ConvertError.message : ConvertError → String
  | .unsupported kind target => "unsupported conversion: " ++ kind ++ " -> " ++ target
  | .unreadable text target => "cannot parse " ++ Quoted.text text ++ " as " ++ target
  | .outOfRange text target => text ++ " does not fit in " ++ target
  | .negative text target => "negative value " ++ text ++ " for " ++ target
  | .record error => error.message

def BindError.message : BindError → String
  | .noTarget => "bind target is nil"
  | .missing field keys =>
      "missing required attr for field " ++ field ++ " (keys: " ++ ",".intercalate keys ++ ")"
  | .field name error => "field " ++ name ++ ": " ++ error.message

end

end MarkupTemplate
