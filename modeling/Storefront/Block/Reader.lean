import Storefront.Block.Basic

namespace Storefront.Block

open Json (Reading)

def shape : Json.Shape where
  name := "BlockDescriptor"
  fields :=
    ["id", "type", "wrapper", "style", "data_bindings", "conditions", "events", "children", "blocks"]

def addField (name : String) (value : Json) (r : Reading Block) : Reading Block :=
  match name with
  | "id" => r.map ({ · with id := value.scalarText? })
  | "type" => r.map ({ · with type := value.scalarText? })
  | "wrapper" => r.map ({ · with wrapper := value.scalarText? })
  | "style" => r.map ({ · with style := value.asObject? })
  | "data_bindings" => r.map ({ · with bindings := value.textEntries })
  | "conditions" =>
      let conditions := Reading.list Condition.ofJson value
      ⟨{ r.result with conditions := conditions.result }, conditions.skipped ++ r.skipped⟩
  | "events" =>
      let events := Reading.list Event.ofJson value
      ⟨{ r.result with events := events.result }, events.skipped ++ r.skipped⟩
  | _ => r

def addChildren (children : Reading (List Block)) (r : Reading Block) : Reading Block :=
  ⟨{ r.result with children := children.result }, children.skipped ++ r.skipped⟩

def addBlocks (blocks : Reading (List Block)) (r : Reading Block) : Reading Block :=
  ⟨{ r.result with blocks := blocks.result }, blocks.skipped ++ r.skipped⟩

mutual
def read : Json → Reading (Except Json.Malformed Block)
  | .object entries =>
      match shape.named [] entries with
      | .ok _ => (ofFields entries).map .ok
      | .error cause => ⟨.error cause, []⟩
  | .array items =>
      let r := ofItems shape.fields items
      if items.length ≤ shape.fields.length then r.map .ok
      else ⟨.error (.tooLong items.length), r.skipped⟩
  | found => ⟨.error (.wrongType found shape.name), []⟩

def readAll : List Json → Reading (List Block)
  | [] => ⟨[], []⟩
  | v :: rest => (read v).cons (readAll rest)

def readList : Json → Reading (List Block)
  | .array items => readAll items
  | _ => ⟨[], []⟩

def ofFields : List (String × Json) → Reading Block
  | [] => ⟨{}, []⟩
  | (name, value) :: rest =>
      if name = "children" then addChildren (readList value) (ofFields rest)
      else if name = "blocks" then addBlocks (readList value) (ofFields rest)
      else addField name value (ofFields rest)

def ofItems : List String → List Json → Reading Block
  | name :: names, value :: rest =>
      if name = "children" then addChildren (readList value) (ofItems names rest)
      else if name = "blocks" then addBlocks (readList value) (ofItems names rest)
      else addField name value (ofItems names rest)
  | _, _ => ⟨{}, []⟩
end

def ofJson (v : Json) : Except Json.Malformed Block := (read v).result

def ofText (text : List Char) : Except Json.Failure (Reading Block) :=
  (shape.ofText text).map ofFields

end Storefront.Block
