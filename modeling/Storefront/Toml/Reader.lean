import Storefront.Toml.Scalar

namespace Storefront.Toml

abbrev Reader := StateT (List Char) (Except Nat)

namespace Reader

variable {α : Type}

def fail : Reader α := fun s => .error s.length

def peek : Reader (Option Char) := do return (← get).head?

def skip (n : Nat) : Reader Unit := modify (List.drop n)

def takeWhile (p : Char → Bool) : Reader (List Char) := do
  let s ← get
  set (s.dropWhile p)
  return s.takeWhile p

def expect (text : List Char) : Reader Unit := do
  if text.isPrefixOf (← get) then skip text.length else fail

def isBlank (c : Char) : Bool := c == ' ' || c == '\t'

def blanks : Reader Unit := do
  let _ ← takeWhile isBlank

def isVisible (c : Char) : Bool := c == '\t' || (' ' ≤ c && c != '\x7f')

def comment : Reader Unit := do
  if (← peek) = some '#' then
    let _ ← takeWhile isVisible

def lineBreak : Reader Bool := do
  match ← get with
  | '\n' :: rest => set rest; return true
  | '\r' :: '\n' :: rest => set rest; return true
  | _ => return false

def lineEnd : Reader Unit := do
  blanks
  comment
  if (← get).isEmpty then return
  unless ← lineBreak do fail

-- Takes blanks, comments and line breaks. Each round takes a line, so the fuel is at least the number of
-- lines left.
def gap : Nat → Reader Unit
  | 0 => return
  | fuel + 1 => do
      blanks
      let commented := (← peek) = some '#'
      comment
      if ← lineBreak then gap fuel
      else if commented then fail

def codePoint (digits : Nat) : Reader Char := do
  let code := (← get).take digits
  let n := code.foldl (fun n c => n * 16 + Scalar.hexValue c) 0
  if code.length = digits ∧ code.all Scalar.isHexDigit ∧ n.isValidChar then
    skip digits
    return Char.ofNat n
  else fail

def escaped : Reader Char := do
  match ← peek with
  | some 'b' => skip 1; return '\x08'
  | some 't' => skip 1; return '\t'
  | some 'n' => skip 1; return '\n'
  | some 'f' => skip 1; return '\x0c'
  | some 'r' => skip 1; return '\r'
  | some '"' => skip 1; return '"'
  | some '\\' => skip 1; return '\\'
  | some 'u' => skip 1; codePoint 4
  | some 'U' => skip 1; codePoint 8
  | _ => fail

-- Takes the rest of a text in quotes. The fuel is more than the number of characters left.
def quotedRest : Nat → Reader (List Char)
  | 0 => fail
  | fuel + 1 => do
      match ← peek with
      | some '"' => skip 1; return []
      | some '\\' =>
          skip 1
          let c ← escaped
          return c :: (← quotedRest fuel)
      | some c =>
          if isVisible c then
            skip 1
            return c :: (← quotedRest fuel)
          else fail
      | none => fail

def literalRest : Reader (List Char) := do
  let s ← takeWhile fun c => isVisible c && c != '\''
  expect ['\'']
  return s

def quoteRun (mark : Char) : Reader (List Char × Bool) := do
  let n := ((← get).takeWhile (· == mark)).length
  if n < 3 then
    skip n
    return (List.replicate n mark, false)
  else
    skip (min n 5)
    return (List.replicate (min n 5 - 3) mark, true)

def hiddenBreak : Reader Bool := do
  let s ← get
  match s.dropWhile isBlank with
  | '\n' :: rest => hide rest
  | '\r' :: '\n' :: rest => hide rest
  | _ => return false
where
  hide (rest : List Char) : Reader Bool := do
    set (afterBlanks rest)
    return true
  afterBlanks : List Char → List Char
    | '\r' :: '\n' :: rest => afterBlanks rest
    | c :: rest => if isBlank c || c == '\n' then afterBlanks rest else c :: rest
    | [] => []

-- Takes the rest of a text of several lines. The fuel is more than the number of characters left.
def longRest (mark : Char) (escapes : Bool) : Nat → Reader (List Char)
  | 0 => fail
  | fuel + 1 => do
      match ← peek with
      | none => fail
      | some c =>
          if c = mark then
            let (quotes, done) ← quoteRun mark
            if done then return quotes else return quotes ++ (← longRest mark escapes fuel)
          else if c = '\\' ∧ escapes then
            skip 1
            if ← hiddenBreak then longRest mark escapes fuel
            else
              let d ← escaped
              return d :: (← longRest mark escapes fuel)
          else if ← lineBreak then return '\n' :: (← longRest mark escapes fuel)
          else if isVisible c then
            skip 1
            return c :: (← longRest mark escapes fuel)
          else fail

def long (mark : Char) (escapes : Bool) : Reader (List Char) := do
  skip 3
  let _ ← lineBreak
  longRest mark escapes ((← get).length + 1)

def short : Reader (List Char) := do
  match ← peek with
  | some '"' => skip 1; quotedRest ((← get).length + 1)
  | some '\'' => skip 1; literalRest
  | _ => fail

def text : Reader (List Char) := do
  match ← get with
  | '"' :: '"' :: '"' :: _ => long '"' true
  | '\'' :: '\'' :: '\'' :: _ => long '\'' false
  | _ => short

def isBareKey (c : Char) : Bool := c.isAlphanum || c == '_' || c == '-'

def keyPart : Reader String := do
  match ← peek with
  | some '"' => return String.ofList (← short)
  | some '\'' => return String.ofList (← short)
  | _ =>
      match ← takeWhile isBareKey with
      | [] => fail
      | part => return String.ofList part

-- Takes the parts of a key: those before the last dot, and the last one. The fuel is more than the number
-- of characters left.
def keyParts : Nat → Reader (List String × String)
  | 0 => fail
  | fuel + 1 => do
      blanks
      let part ← keyPart
      blanks
      if (← peek) = some '.' then
        skip 1
        let (path, last) ← keyParts fuel
        return (part :: path, last)
      else return ([], part)

def keyLimit : Nat := 80

def key (fuel : Nat) : Reader (List String × String) := do
  let start ← get
  let (path, last) ← keyParts fuel
  if path.length + 1 < keyLimit then return (path, last)
  else
    set start
    fail

end Reader

end Storefront.Toml
