import Storefront.Dictionary
import Storefront.Settings.Tree
import Storefront.Text.Digits
import Storefront.Text.Lower

namespace Storefront.Settings

inductive Step where
  | key (name : String)
  | index (i : Int)
  deriving DecidableEq, Repr

structure KeyPath where
  head : String
  steps : List Step
  deriving DecidableEq, Repr

namespace KeyPath

def isKeyChar (c : Char) : Bool := c.isAlphanum || c == ' ' || c == '_' || c == '-'

def key? (s : List Char) : Option (String × List Char) :=
  let name := s.takeWhile isKeyChar
  if name.isEmpty then none else some (String.ofList name, s.dropWhile isKeyChar)

def isGap (c : Char) : Bool := c == ' ' || c == '\t'

def index? (s : List Char) : Option (Int × List Char) :=
  let s := s.dropWhile isGap
  let (negative, s) := match s with
    | '-' :: rest => (true, rest)
    | _ => (false, s)
  match Text.natOfText? (s.takeWhile Char.isDigit), (s.dropWhile Char.isDigit).dropWhile isGap with
  | some n, ']' :: rest =>
      let i : Int := if negative then -n else n
      if -Int.pow 2 63 ≤ i ∧ i < Int.pow 2 63 then some (i, rest) else none
  | _, _ => none

-- The steps of a text. The fuel is at least the number of its characters.
def steps? : Nat → List Char → Option (List Step)
  | _, [] => some []
  | 0, _ => none
  | fuel + 1, '.' :: s =>
      (key? s).bind fun (name, rest) => (steps? fuel rest).map (.key name :: ·)
  | fuel + 1, '[' :: s =>
      (index? s).bind fun (i, rest) => (steps? fuel rest).map (.index i :: ·)
  | _ + 1, _ => none

def ofText? (text : String) : Option KeyPath :=
  let s := (Text.lower text).toList
  (key? s).bind fun (head, rest) => (steps? rest.length rest).map fun steps => { head, steps }

end KeyPath

namespace Tree

def empty : Tree := .table none []

def child? (key : String) : Tree → Option Tree
  | .table _ entries => Dictionary.get? key entries
  | _ => none

def setChild (t : Tree) (key : String) (v : Tree) : Tree :=
  match t with
  | .table origin entries => .table origin (Dictionary.insert key v entries)
  | _ => .table none [(key, v)]

theorem child?_setChild (key k : String) (v t : Tree) :
    (t.setChild key v).child? k =
      if key = k then some v else t.child? k := by
  cases t with
  | scalar => simp [setChild, child?, Dictionary.get?]
  | array => simp [setChild, child?, Dictionary.get?]
  | table origin entries => simp [setChild, child?, Dictionary.get?_insert]

mutual
def onto : Tree → Tree → Tree
  | .table _ entries, below => overlay entries below
  | .scalar origin v, _ => .scalar origin v
  | .array origin items, _ => .array origin items

def overlay : List (String × Tree) → Tree → Tree
  | [], below => below
  | (key, v) :: rest, below =>
      overlay rest (below.setChild key (v.onto ((below.child? key).getD empty)))
end

def items : Tree → List Tree
  | .array _ items => items
  | _ => []

def changeAt (i : Int) (change : Tree → Tree) (items : List Tree) : List Tree :=
  let place := if i < 0 then items.length + i else i
  if place < 0 then change null :: (List.replicate (place.natAbs - 1) null ++ items)
  else (items ++ List.replicate (place.toNat + 1 - items.length) null).modify place.toNat change

def assign (t v : Tree) : List Step → Tree
  | [] => v
  | [.key k] => t.setChild k (v.onto ((t.child? k).getD empty))
  | .key k :: rest => t.setChild k (((t.child? k).getD null).assign v rest)
  | .index i :: rest =>
      let origin := match t with
        | .array origin _ => origin
        | _ => none
      .array origin (changeAt i (fun below => below.assign v rest) t.items)

def put (t : Tree) (path : KeyPath) (v : Tree) : Tree := t.assign v (.key path.head :: path.steps)

def find? (t : Tree) : List Step → Option Tree
  | [] => some t
  | .key k :: rest => (t.child? k).bind fun below => below.find? rest
  | .index i :: rest =>
      let place := if i < 0 then t.items.length + i else i
      if place < 0 then none else (t.items[place.toNat]?).bind fun below => below.find? rest

end Tree

end Storefront.Settings
