import Storefront.Json.Printer

namespace Storefront

inductive Operator where
  | equals
  | notEquals
  | notEmpty
  | empty
  | greater
  | less
  | greaterOrEqual
  | lessOrEqual
  | contains
  | other (name : String)
  deriving DecidableEq, Repr

namespace Operator

def name : Operator → String
  | .equals => "equals"
  | .notEquals => "not_equals"
  | .notEmpty => "not_empty"
  | .empty => "empty"
  | .greater => "gt"
  | .less => "lt"
  | .greaterOrEqual => "gte"
  | .lessOrEqual => "lte"
  | .contains => "contains"
  | .other name => name

def known : List Operator :=
  [.equals, .notEquals, .notEmpty, .empty, .greater, .less, .greaterOrEqual, .lessOrEqual, .contains]

def ofName (name : String) : Operator :=
  (known.find? fun op => op.name == name).getD (.other name)

def ofJson : Json → Operator
  | .string name => ofName name
  | v => .other v.compress

def missing : Operator := .other ""

def isKnown (op : Operator) : Bool := op ∈ known

end Operator

end Storefront
