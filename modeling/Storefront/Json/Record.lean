import Storefront.Json.Skip

namespace Storefront.Json

structure Shape where
  name : String
  fields : List String
  aliases : List (String × String) := []

def Shape.field? (shape : Shape) (key : String) : Option String :=
  if key ∈ shape.fields then some key else Dictionary.get? key shape.aliases

def Shape.named (shape : Shape) (seen : List String) :
    List (String × Json) → Except Malformed (List (String × Json))
  | [] => .ok []
  | (key, value) :: rest =>
      match shape.field? key with
      | none => shape.named seen rest
      | some field =>
          if field ∈ seen then .error (.duplicateField field)
          else (shape.named (field :: seen) rest).map ((field, value) :: ·)

def Shape.listed (shape : Shape) (items : List Json) : Except Malformed (List (String × Json)) :=
  if items.length ≤ shape.fields.length then .ok (shape.fields.zip items)
  else .error (.tooLong items.length)

def Shape.ofJson (shape : Shape) : Json → Except Malformed (List (String × Json))
  | .object entries => shape.named [] entries
  | .array items => shape.listed items
  | found => .error (.wrongType found shape.name)

namespace Scan

def listedFields (depth : Nat) (first : Bool) : List String → Scan (List (String × Json))
  | [] => do
      match ← next with
      | some ']' => skip; pure []
      | some ',' =>
          skip
          match ← next with
          | some ']' => failAhead .trailingComma
          | _ => failAhead .trailingCharacters
      | some _ => failAhead .trailingCharacters
      | none => failAhead .endInList
  | field :: fields => do
      if ← nextItem first then
        let v ← value ((← get).rest.length + 1) depth
        let rest ← listedFields depth false fields
        pure ((field, v) :: rest)
      else
        skip
        pure []

-- Takes the entries of an object and the closing brace. The fuel is at least the number of characters left.
def namedFields (shape : Shape) (depth : Nat) (seen : List String) :
    Nat → Bool → Scan (List (String × Json))
  | 0, _ => failHere .endInObject
  | fuel + 1, first => do
      match ← nextKey first with
      | none => skip; pure []
      | some key =>
          match shape.field? key with
          | none =>
              colon
              skipValue fuel
              namedFields shape depth seen fuel false
          | some field =>
              if field ∈ seen then
                let _ ← next
                failHere (.malformed (.duplicateField field))
              else
                colon
                let v ← value fuel depth
                let rest ← namedFields shape depth (field :: seen) fuel false
                pure ((field, v) :: rest)

def fields (shape : Shape) : Scan (List (String × Json)) := do
  match ← next with
  | none => failAhead .endInValue
  | some '[' => skip; listedFields (depthLimit - 1) true shape.fields
  | some '{' => skip; namedFields shape (depthLimit - 1) [] ((← get).rest.length + 1) true
  | some _ =>
      let found ← value ((← get).rest.length + 1) depthLimit
      failHere (.malformed (.wrongType found shape.name))

end Scan

def Shape.ofText (shape : Shape) (text : List Char) : Except Failure (List (String × Json)) :=
  let read : Scan (List (String × Json)) := do
    let fs ← Scan.fields shape
    Scan.finish
    pure fs
  match read (Cursor.start text) with
  | .ok (fs, _) => .ok fs
  | .error e => .error e

end Storefront.Json
