import Storefront.Json.Numeral

namespace Storefront.Json

namespace Scan

def colon : Scan Unit := do
  match ← next with
  | some ':' => skip
  | some _ => failAhead .expectedColon
  | none => failAhead .endInObject

def nextItem (first : Bool) : Scan Bool := do
  match ← next with
  | none => failAhead .endInList
  | some ']' => pure false
  | some c =>
      if first then pure true
      else if c = ',' then do
        skip
        match ← next with
        | some ']' => failAhead .trailingComma
        | some _ => pure true
        | none => failAhead .endInValue
      else failAhead .expectedListEnd

def nextKey (first : Bool) : Scan (Option String) := do
  match ← next with
  | none => failAhead .endInObject
  | some '}' => pure none
  | some c =>
      if first then
        if c = '"' then key else failAhead .keyNotString
      else if c = ',' then do
        skip
        match ← next with
        | some '"' => key
        | some '}' => failAhead .trailingComma
        | some _ => failAhead .keyNotString
        | none => failAhead .endInValue
      else failAhead .expectedObjectEnd
where
  key : Scan (Option String) := do
    skip
    return some (← string)

mutual
-- Takes a value. `depth` is the number of containers that may still be entered, plus one. The fuel is at
-- least the number of characters left.
def value : Nat → Nat → Scan Json
  | 0, _ => failHere .endInValue
  | fuel + 1, depth => do
      match ← next with
      | none => failAhead .endInValue
      | some 'n' => skip; word ['u', 'l', 'l']; pure .null
      | some 't' => skip; word ['r', 'u', 'e']; pure (.bool true)
      | some 'f' => skip; word ['a', 'l', 's', 'e']; pure (.bool false)
      | some '"' => skip; return .string (← string)
      | some '[' =>
          if depth ≤ 1 then failAhead .tooDeep
          else do
            skip
            let items ← items fuel (depth - 1) true
            skip
            pure (.array items)
      | some '{' =>
          if depth ≤ 1 then failAhead .tooDeep
          else do
            skip
            let entries ← entries fuel (depth - 1) true
            skip
            pure (.object (Dictionary.ofList entries))
      | some c =>
          if c = '-' ∨ c.isDigit then return .number (← number) else failAhead .expectedValue

def items : Nat → Nat → Bool → Scan (List Json)
  | 0, _, _ => failHere .endInList
  | fuel + 1, depth, first => do
      if ← nextItem first then
        let v ← value fuel depth
        let rest ← items fuel depth false
        pure (v :: rest)
      else pure []

def entries : Nat → Nat → Bool → Scan (List (String × Json))
  | 0, _, _ => failHere .endInObject
  | fuel + 1, depth, first => do
      match ← nextKey first with
      | none => pure []
      | some k =>
          colon
          let v ← value fuel depth
          let rest ← entries fuel depth false
          pure ((k, v) :: rest)
end

end Scan

def depthLimit : Nat := 128

def parseWithin (depth : Nat) (text : List Char) : Except Failure Json :=
  let read : Scan Json := do
    let v ← Scan.value (text.length + 1) depth
    Scan.finish
    pure v
  match read (Cursor.start text) with
  | .ok (v, _) => .ok v
  | .error e => .error e

def parse (text : List Char) : Except Failure Json := parseWithin depthLimit text

end Storefront.Json
