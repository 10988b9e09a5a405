import Storefront.Block.Basic

namespace Storefront.Block

def listEntry (name : String) : List Json → List (String × Json)
  | [] => []
  | items => [(name, .array items)]

def textEntry (name : String) (text : Option String) : List (String × Json) :=
  (text.map fun s => (name, Json.string s)).toList

def ownEntries (b : Block) : List (String × Json) :=
  textEntry "id" b.id ++ textEntry "type" b.type ++ textEntry "wrapper" b.wrapper
    ++ (b.style.map fun style => ("style", Json.object style)).toList
    ++ (if b.bindings.isEmpty then []
        else [("data_bindings", .object (b.bindings.map fun e => (e.1, .string e.2)))])
    ++ listEntry "conditions" (b.conditions.map Condition.toJson)
    ++ listEntry "events" (b.events.map Event.toJson)

mutual
def toJson : Block → Json
  | ⟨id, type, wrapper, style, bindings, conditions, events, children, blocks⟩ =>
      .object (ownEntries { id, type, wrapper, style, bindings, conditions, events }
        ++ listEntry "children" (allToJson children) ++ listEntry "blocks" (allToJson blocks))

def allToJson : List Block → List Json
  | [] => []
  | b :: rest => b.toJson :: allToJson rest
end

end Storefront.Block
