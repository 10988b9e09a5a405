import Storefront.Event.Basic
import Storefront.Json.Dump

namespace Storefront

inductive Target where
  | text (s : String)
  | index (x : Binary64)
  deriving DecidableEq, Repr

namespace Target

def asText? : Target → Option String
  | .text s => some s
  | .index _ => none

def asIndex? : Target → Option Binary64
  | .text _ => none
  | .index x => some x

def display : Target → String
  | .text s => s
  | .index x => String.ofList (x.write .plain)

def toJson : Target → Json
  | .text s => .string s
  | .index x => .number (.float x)

def dump : Target → String
  | .text s => "Text(" ++ Text.quoted s ++ ")"
  | .index x => "Index(" ++ String.ofList (x.write .dump) ++ ")"

end Target

structure Invocation where
  action : Action
  target : Target
  value : Option Json := none
  deriving BEq, Repr

namespace Invocation

def toJson (i : Invocation) : Json :=
  .object ([("action", .string i.action.name), ("target", i.target.toJson)]
    ++ (i.value.map fun v => ("value", v)).toList)

def dump (i : Invocation) : String :=
  let value := match i.value with
    | some v => "Some(" ++ v.dump ++ ")"
    | none => "None"
  "Invocation \x7b action: " ++ i.action.dump ++ ", target: " ++ i.target.dump
    ++ ", value: " ++ value ++ " \x7d"

end Invocation

end Storefront
