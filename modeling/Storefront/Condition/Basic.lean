import Storefront.Condition.Operator
import Storefront.Json.Field
import Storefront.Json.Reading

namespace Storefront

structure Condition where
  field : String
  op : Operator
  value : Option Json := none
  deriving BEq, Repr

namespace Condition

def shape : Json.Shape :=
  { name := "Condition", fields := ["field", "op", "value"], aliases := [("operator", "op")] }

def ofFields (fields : List (String × Json)) : Condition where
  field := Json.fieldText (Dictionary.get? "field" fields)
  op := match Dictionary.get? "op" fields with
    | some v => Operator.ofJson v
    | none => .missing
  value := Dictionary.get? "value" fields

def ofJson (v : Json) : Except Json.Malformed Condition := (shape.ofJson v).map ofFields

def ofText (text : List Char) : Except Json.Failure Condition := (shape.ofText text).map ofFields

def toJson (c : Condition) : Json :=
  .object ([("field", .string c.field), ("op", .string c.op.name)]
    ++ (c.value.map fun v => ("value", v)).toList)

end Condition

end Storefront
