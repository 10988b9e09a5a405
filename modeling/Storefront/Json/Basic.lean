import Storefront.Binary64
import Storefront.Dictionary

namespace Storefront

inductive Number where
  | integer (n : Int)
  | float (x : Binary64)
  deriving DecidableEq, Repr, Inhabited

inductive Json where
  | null
  | bool (b : Bool)
  | number (n : Number)
  | string (s : String)
  | array (items : List Json)
  | object (entries : List (String × Json))
  deriving BEq, Repr, Inhabited

namespace Number

def toBinary64 : Number → Binary64
  | .integer n => Binary64.ofInt n
  | .float x => x

def same : Number → Number → Bool
  | .integer m, .integer n => m == n
  | .float x, .float y => x.same y
  | _, _ => false

end Number

namespace Json

def field? (name : String) : Json → Option Json
  | .object entries => Dictionary.get? name entries
  | _ => none

def asArray? : Json → Option (List Json)
  | .array items => some items
  | _ => none

def asObject? : Json → Option (Dictionary Json)
  | .object entries => some entries
  | _ => none

def asString? : Json → Option String
  | .string s => some s
  | _ => none

def isNull : Json → Bool
  | .null => true
  | _ => false

def ofNat (n : Nat) : Json := .number (.integer n)

def ofStrings (xs : List String) : Json := .array (xs.map .string)

mutual
def sorted : Json → Json
  | .array items => .array (sortedItems items)
  | .object entries => .object (Dictionary.ofList (sortedEntries entries))
  | v => v

def sortedItems : List Json → List Json
  | [] => []
  | v :: rest => v.sorted :: sortedItems rest

def sortedEntries : List (String × Json) → List (String × Json)
  | [] => []
  | (k, v) :: rest => (k, v.sorted) :: sortedEntries rest
end

mutual
def same : Json → Json → Bool
  | .null, .null => true
  | .bool a, .bool b => a == b
  | .number m, .number n => m.same n
  | .string s, .string t => s == t
  | .array xs, .array ys => sameItems xs ys
  | .object xs, .object ys => sameEntries xs ys
  | _, _ => false

def sameItems : List Json → List Json → Bool
  | [], [] => true
  | x :: xs, y :: ys => x.same y && sameItems xs ys
  | _, _ => false

def sameEntries : List (String × Json) → List (String × Json) → Bool
  | [], [] => true
  | (j, x) :: xs, (k, y) :: ys => j == k && x.same y && sameEntries xs ys
  | _, _ => false
end

end Json

end Storefront
