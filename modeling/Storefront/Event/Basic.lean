import Storefront.Event.Action
import Storefront.Json.Field
import Storefront.Json.Reading

namespace Storefront

structure Event where
  action : Action
  target : String
  value : Option Json := none
  deriving BEq, Repr

namespace Event

def shape : Json.Shape := { name := "EventDescriptor", fields := ["action", "target", "value"] }

def ofFields (fields : List (String × Json)) : Event where
  action := match Dictionary.get? "action" fields with
    | some v => Action.ofJson v
    | none => .missing
  target := Json.fieldText (Dictionary.get? "target" fields)
  value := Dictionary.get? "value" fields

def ofJson (v : Json) : Except Json.Malformed Event := (shape.ofJson v).map ofFields

def ofText (text : List Char) : Except Json.Failure Event := (shape.ofText text).map ofFields

def toJson (e : Event) : Json :=
  .object ([("action", .string e.action.name), ("target", .string e.target)]
    ++ (e.value.map fun v => ("value", v)).toList)

end Event

end Storefront
