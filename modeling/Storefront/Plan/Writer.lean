import Storefront.Plan.Basic

namespace Storefront

namespace PlannedEvent

def toJson (e : PlannedEvent) : Json :=
  .object [("action", .string e.action.name),
    ("invocation", (e.invocation.map Invocation.toJson).getD .null)]

end PlannedEvent

namespace Node

def dictionaryEntry (name : String) (d : Dictionary Json) : List (String × Json) :=
  if d.isEmpty then [] else [(name, .object d)]

def listEntry (name : String) (items : List Json) : List (String × Json) :=
  if items.isEmpty then [] else [(name, .array items)]

mutual
def toJson : Node → Json
  | ⟨key, kind, visible, iteration, wrapper, style, props, events, children⟩ =>
      .object ([("key", .string key), ("kind", .string kind.name), ("visible", .bool visible)]
        ++ (iteration.map fun i => ("iteration", Json.ofNat i)).toList
        ++ [("wrapper", wrapper.toJson)]
        ++ dictionaryEntry "style" style ++ dictionaryEntry "props" props
        ++ listEntry "events" (events.map PlannedEvent.toJson)
        ++ listEntry "children" (allToJson children))

def allToJson : List Node → List Json
  | [] => []
  | n :: rest => n.toJson :: allToJson rest
end

end Node

namespace Report

def toJson (r : Report) : Json := .object (("key", .string r.key) :: r.diagnostic.entries)

end Report

namespace Plan

def reportsToJson (p : Plan) : Json := .array (p.reports.map Report.toJson)

def toJson (p : Plan) : Json :=
  .object [("root", p.root.toJson), ("diagnostics", p.reportsToJson)]

end Plan

end Storefront
