import Storefront.Toml.Item
import Storefront.Toml.Reader

namespace Storefront.Toml

namespace Reader

def isScalarChar (c : Char) : Bool :=
  c.isAlphanum || c == '+' || c == '-' || c == '.' || c == '_' || c == ':'

def scalarText : Reader (List Char) := do
  let s ← takeWhile isScalarChar
  match ← get with
  | ' ' :: h :: i :: ':' :: _ =>
      if (Moment.date? s).any (fun d => d.2.isEmpty) && h.isDigit && i.isDigit then
        skip 1
        return s ++ ' ' :: (← takeWhile isScalarChar)
      else return s
  | _ => return s

def scalar : Reader Value := do
  let start ← get
  match Scalar.ofText? (← scalarText) with
  | some v => return v
  | none => set start; fail

def inlineTable : List ((List String × String) × Value) → Option (Dictionary Item)
  | entries => entries.foldlM (fun table e => Item.assign e.1.1 e.1.2 e.2 table) []

mutual
-- Takes a value. `depth` is the number of arrays and tables that may still be entered. The fuel is more
-- than the number of characters left.
def value : Nat → Nat → Reader Value
  | 0, _ => fail
  | fuel + 1, depth => do
      match ← peek with
      | some '"' => return .text (String.ofList (← text))
      | some '\'' => return .text (String.ofList (← text))
      | some '[' =>
          if depth = 0 then fail
          else
            skip 1
            return .array (← elements fuel (depth - 1))
      | some '{' =>
          if depth = 0 then fail
          else
            skip 1
            blanks
            if (← peek) = some '}' then
              skip 1
              return .table []
            else
              match inlineTable (← entries fuel (depth - 1)) with
              | some table => return .table (Item.toValues table)
              | none => fail
      | _ => scalar

def elements : Nat → Nat → Reader (List Value)
  | 0, _ => fail
  | fuel + 1, depth => do
      gap ((← get).length + 1)
      if (← peek) = some ']' then
        skip 1
        return []
      else
        let v ← value fuel depth
        gap ((← get).length + 1)
        match ← peek with
        | some ',' =>
            skip 1
            return v :: (← elements fuel depth)
        | some ']' =>
            skip 1
            return [v]
        | _ => fail

def entries : Nat → Nat → Reader (List ((List String × String) × Value))
  | 0, _ => fail
  | fuel + 1, depth => do
      let k ← key fuel
      expect ['=']
      blanks
      let v ← value fuel depth
      blanks
      match ← peek with
      | some ',' =>
          skip 1
          return (k, v) :: (← entries fuel depth)
      | some '}' =>
          skip 1
          return [(k, v)]
      | _ => fail
end

def depthLimit : Nat := 79

def settle {α : Type} (change : Option α) : Reader α :=
  match change with
  | some a => pure a
  | none => fail

-- Takes the lines of a document after the header of a table. The fuel is more than the number of lines
-- left.
def lines : Nat → List String → Dictionary Item → Reader (Dictionary Item)
  | 0, _, _ => fail
  | fuel + 1, header, tables => do
      blanks
      let s ← get
      match s with
      | [] => return tables
      | '[' :: '[' :: _ =>
          skip 2
          let (path, last) ← key s.length
          expect [']', ']']
          lineEnd
          lines fuel (path ++ [last]) (← settle (Item.openElement path last tables))
      | '[' :: _ =>
          skip 1
          let (path, last) ← key s.length
          expect [']']
          lineEnd
          lines fuel (path ++ [last]) (← settle (Item.openTable path last tables))
      | c :: _ =>
          if c = '#' ∨ c = '\n' ∨ c = '\r' then
            lineEnd
            lines fuel header tables
          else
            let (path, last) ← key s.length
            expect ['=']
            blanks
            let v ← value s.length depthLimit
            lineEnd
            lines fuel header (← settle (Item.assignUnder header path last v tables))

end Reader

structure Fault where
  line : Nat
  column : Nat
  deriving DecidableEq, Repr

def Fault.after (read : List Char) : Fault :=
  { line := (read.filter (· == '\n')).length + 1,
    column := (read.reverse.takeWhile (· != '\n')).length + 1 }

def parse (document : List Char) : Except Fault (List (String × Value)) :=
  let s := match document with
    | '\ufeff' :: rest => rest
    | _ => document
  match (Reader.lines (s.length + 1) [] []).run s with
  | .ok (tables, _) => .ok (Item.toValues tables)
  | .error left => .error (.after (document.take (document.length - left)))

end Storefront.Toml
