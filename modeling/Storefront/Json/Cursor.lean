import Storefront.Json.Fault

namespace Storefront.Json

structure Cursor where
  rest : List Char
  index : Nat

def Cursor.start (text : List Char) : Cursor := ⟨text, 0⟩

abbrev Scan := StateT Cursor (Except Failure)

namespace Scan

variable {α : Type}

def failHere (fault : Fault) : Scan α := fun c => .error ⟨fault, c.index⟩

def failAhead (fault : Fault) : Scan α := fun c =>
  .error ⟨fault, if c.rest.isEmpty then c.index else c.index + 1⟩

def peek : Scan (Option Char) := fun c => .ok (c.rest.head?, c)

def skip : Scan Unit := fun c =>
  match c.rest with
  | [] => .ok ((), c)
  | d :: rest => .ok ((), ⟨rest, c.index + d.utf8Size⟩)

def run (p : Char → Bool) : Scan (List Char) := fun c =>
  let taken := c.rest.takeWhile p
  .ok (taken, ⟨c.rest.drop taken.length, taken.foldl (fun index d => index + d.utf8Size) c.index⟩)

def isBlank (c : Char) : Bool := c == ' ' || c == '\n' || c == '\t' || c == '\r'

def next : Scan (Option Char) := do
  let _ ← run isBlank
  peek

def word : List Char → Scan Unit
  | [] => pure ()
  | w :: ws => do
      match ← peek with
      | none => failHere .endInValue
      | some c => if c = w then do skip; word ws else failAhead .expectedWord

def finish : Scan Unit := do
  match ← next with
  | none => pure ()
  | some _ => failAhead .trailingCharacters

end Scan

def hexValue? (c : Char) : Option Nat :=
  if '0' ≤ c ∧ c ≤ '9' then some (c.toNat - '0'.toNat)
  else if 'a' ≤ c ∧ c ≤ 'f' then some (c.toNat - 'a'.toNat + 10)
  else if 'A' ≤ c ∧ c ≤ 'F' then some (c.toNat - 'A'.toNat + 10)
  else none

def escaped? (c : Char) : Option Char :=
  if c = '"' ∨ c = '\\' ∨ c = '/' then some c
  else if c = 'b' then some '\x08'
  else if c = 'f' then some '\x0c'
  else if c = 'n' then some '\n'
  else if c = 'r' then some '\r'
  else if c = 't' then some '\t'
  else none

inductive StringState where
  | plain
  | escape
  | code (high : Option Nat) (start : Nat) (value : Option Nat)
  | pair (high : Nat) (slash : Bool)

def stringRest (state : StringState) (read : List Char) :
    List Char → Nat → Except Failure (List Char × Cursor)
  | [], here => .error ⟨.endInString, here⟩
  | c :: rest, here =>
      let after := here + c.utf8Size
      match state with
      | .plain =>
          if c = '"' then .ok (read.reverse, ⟨rest, after⟩)
          else if c = '\\' then stringRest .escape read rest after
          else if c < ' ' then .error ⟨.controlCharacter, here + 1⟩
          else stringRest .plain (c :: read) rest after
      | .escape =>
          if c = 'u' then stringRest (.code none after (some 0)) read rest after
          else match escaped? c with
            | some d => stringRest .plain (d :: read) rest after
            | none => .error ⟨.invalidEscape, here + 1⟩
      | .code high start value =>
          let value := value.bind fun v => (hexValue? c).map (v * 16 + ·)
          if after < start + 4 then stringRest (.code high start value) read rest after
          else match value, high with
            | none, _ => .error ⟨.invalidEscape, start + 4⟩
            | some n, none =>
                if 0xDC00 ≤ n ∧ n ≤ 0xDFFF then .error ⟨.loneSurrogate, after⟩
                else if 0xD800 ≤ n ∧ n ≤ 0xDBFF then stringRest (.pair n false) read rest after
                else stringRest .plain (Char.ofNat n :: read) rest after
            | some n, some h =>
                if 0xDC00 ≤ n ∧ n ≤ 0xDFFF then
                  let d := Char.ofNat ((h - 0xD800) * 0x400 + (n - 0xDC00) + 0x10000)
                  stringRest .plain (d :: read) rest after
                else .error ⟨.loneSurrogate, after⟩
      | .pair high slash =>
          if !slash && c == '\\' then stringRest (.pair high true) read rest after
          else if slash && c == 'u' then stringRest (.code (some high) after (some 0)) read rest after
          else .error ⟨.unpairedSurrogate, here + 1⟩

namespace Scan

def string : Scan String := fun c =>
  match stringRest .plain [] c.rest c.index with
  | .ok (read, c) => .ok (String.ofList read, c)
  | .error e => .error e

end Scan

end Storefront.Json
