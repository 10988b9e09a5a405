import Storefront.Json.Basic

namespace Storefront

inductive Diagnostic where
  | unknownOperator (op field : String)
  | unknownAction (action : String)
  | invalidSlideIndex (target : String)
  | notAnArray (path : String)
  deriving DecidableEq, Repr

namespace Diagnostic

def message : Diagnostic → String
  | .unknownOperator op field => s!"Unknown condition operator '{op}' on field '{field}'"
  | .unknownAction action => s!"Unknown event action '{action}'"
  | .invalidSlideIndex target => s!"Slide index '{target}' is not a number"
  | .notAnArray path => s!"Repeater items at '{path}' is not an array"

def entries : Diagnostic → List (String × Json)
  | .unknownOperator op field =>
      [("kind", .string "unknown_operator"), ("op", .string op), ("field", .string field)]
  | .unknownAction action => [("kind", .string "unknown_action"), ("action", .string action)]
  | .invalidSlideIndex target =>
      [("kind", .string "invalid_slide_index"), ("target", .string target)]
  | .notAnArray path => [("kind", .string "not_an_array"), ("path", .string path)]

def toJson (d : Diagnostic) : Json := .object d.entries

end Diagnostic

end Storefront
