import Storefront.Json.Basic
import Storefront.Text.Digits
import Storefront.Text.Split

namespace Storefront.Path

def dotIndices : Option (List Char) → List Char → List Char
  | none, [] => []
  | none, c :: rest => if c = '[' then dotIndices (some []) rest else c :: dotIndices none rest
  | some digits, [] => '[' :: digits.reverse
  | some digits, c :: rest =>
      if c.isDigit then dotIndices (some (c :: digits)) rest
      else if c = '[' then '[' :: (digits.reverse ++ dotIndices (some []) rest)
      else if c = ']' ∧ digits ≠ [] then '.' :: (digits.reverse ++ dotIndices none rest)
      else '[' :: (digits.reverse ++ c :: dotIndices none rest)

def normalize (path : String) : String := String.ofList (dotIndices none path.toList)

def segments (path : String) : List String :=
  (Text.split '.' (dotIndices none path.toList)).map String.ofList

def index? (segment : String) : Option Nat :=
  match segment.toList with
  | '+' :: digits => Text.natOfText? digits
  | digits => Text.natOfText? digits

def step (segment : String) : Json → Option Json
  | .object entries => Dictionary.get? segment entries
  | .array items => (index? segment).bind fun i => items[i]?
  | _ => none

def walk (start : Json) : List String → Option Json
  | [] => some start
  | segment :: rest => (step segment start).bind fun v => walk v rest

def resolveWith (lookup : String → Option Json) (path : String) : Option Json :=
  if path.isEmpty then none
  else
    match segments path with
    | [] => none
    | head :: rest => (lookup head).bind fun v => walk v rest

def get (root : Json) (path : String) : Option Json :=
  if path.isEmpty then none else walk root (segments path)

theorem walk_append (v : Json) (a b : List String) :
    walk v (a ++ b) = (walk v a).bind fun w => walk w b := by
  induction a generalizing v with
  | nil => rfl
  | cons s rest ih =>
      simp only [List.cons_append, walk]
      cases step s v with
      | none => rfl
      | some w => exact ih w

end Storefront.Path
