import Storefront.Json.Parser

namespace Storefront.Json

def skipStringRest (state : StringState) : List Char → Nat → Except Failure Cursor
  | [], here => .error ⟨.endInString, here⟩
  | c :: rest, here =>
      let after := here + c.utf8Size
      match state with
      | .escape =>
          if c = 'u' then skipStringRest (.code none after (some 0)) rest after
          else if (escaped? c).isSome then skipStringRest .plain rest after
          else .error ⟨.invalidEscape, here + 1⟩
      | .code high start value =>
          let value := value.bind fun v => (hexValue? c).map (v * 16 + ·)
          if after < start + 4 then skipStringRest (.code high start value) rest after
          else if value.isSome then skipStringRest .plain rest after
          else .error ⟨.invalidEscape, start + 4⟩
      | _ =>
          if c = '"' then .ok ⟨rest, after⟩
          else if c = '\\' then skipStringRest .escape rest after
          else if c < ' ' then .error ⟨.controlCharacter, here⟩
          else skipStringRest .plain rest after

namespace Scan

def skipString : Scan Unit := fun c =>
  match skipStringRest .plain c.rest c.index with
  | .ok c => .ok ((), c)
  | .error e => .error e

def skipExponent : Scan Unit := do
  skip
  match ← peek with
  | some '+' => skip
  | some '-' => skip
  | _ => pure ()
  match ← run Char.isDigit with
  | [] => failAhead .invalidNumber
  | _ => pure ()

def skipExponentOrEnd : Scan Unit := do
  match ← peek with
  | some 'e' => skipExponent
  | some 'E' => skipExponent
  | _ => pure ()

def skipUnsigned : Scan Unit := do
  match ← peek with
  | some '0' =>
      skip
      match ← peek with
      | some c => if c.isDigit then failAhead .invalidNumber else pure ()
      | none => pure ()
  | _ =>
      match ← run Char.isDigit with
      | [] => failAhead .invalidNumber
      | _ => pure ()
  match ← peek with
  | some '.' =>
      skip
      match ← run Char.isDigit with
      | [] => failAhead .invalidNumber
      | _ => skipExponentOrEnd
  | _ => skipExponentOrEnd

mutual
-- Passes over a value. The fuel is at least the number of characters left.
def skipValue : Nat → Scan Unit
  | 0 => failHere .endInValue
  | fuel + 1 => do
      match ← next with
      | none => failAhead .endInValue
      | some 'n' => skip; word ['u', 'l', 'l']
      | some 't' => skip; word ['r', 'u', 'e']
      | some 'f' => skip; word ['a', 'l', 's', 'e']
      | some '"' => skip; skipString
      | some '-' => skip; skipUnsigned
      | some '[' =>
          skip
          match ← next with
          | some ']' => skip
          | some _ => skipItems fuel
          | none => failAhead .endInList
      | some '{' =>
          skip
          match ← next with
          | some '}' => skip
          | some _ => skipEntries fuel
          | none => failAhead .endInObject
      | some c => if c.isDigit then skipUnsigned else failAhead .expectedValue

def skipItems : Nat → Scan Unit
  | 0 => failHere .endInList
  | fuel + 1 => do
      skipValue fuel
      match ← next with
      | some ',' => skip; skipItems fuel
      | some ']' => skip
      | some _ => failAhead .expectedListEnd
      | none => failAhead .endInList

def skipEntries : Nat → Scan Unit
  | 0 => failHere .endInObject
  | fuel + 1 => do
      match ← next with
      | some '"' => skip; skipString
      | some _ => failAhead .keyNotString
      | none => failAhead .endInObject
      colon
      skipValue fuel
      match ← next with
      | some ',' => skip; skipEntries fuel
      | some '}' => skip
      | some _ => failAhead .expectedObjectEnd
      | none => failAhead .endInObject
end

end Scan

end Storefront.Json
