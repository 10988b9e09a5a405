import Storefront.Text.Digits
import Storefront.Text.Split

namespace Storefront.Url.Address

def hexValue? (c : Char) : Option Nat :=
  if c.isDigit then some (c.toNat - '0'.toNat)
  else if 'a' ≤ c ∧ c ≤ 'f' then some (c.toNat - 'a'.toNat + 10)
  else if 'A' ≤ c ∧ c ≤ 'F' then some (c.toNat - 'A'.toNat + 10)
  else none

def numberIn (base : Nat) (digits : List Char) : Option Nat :=
  digits.foldlM (fun n c =>
    match hexValue? c with
    | some d => if d < base then some (n * base + d) else none
    | none => none) 0

def number? : List Char → Option Nat
  | [] => none
  | '0' :: 'x' :: digits => numberIn 16 digits
  | '0' :: 'X' :: digits => numberIn 16 digits
  | '0' :: d :: digits => numberIn 8 (d :: digits)
  | digits => numberIn 10 digits

def withoutRoot (parts : List (List Char)) : List (List Char) :=
  if parts.getLast? = some [] then parts.dropLast else parts

def endsInNumber (parts : List (List Char)) : Bool :=
  match (withoutRoot parts).getLast? with
  | some last => (!last.isEmpty && last.all Char.isDigit) || (number? last).isSome
  | none => false

def isBytes (parts : List (List Char)) : Bool :=
  let parts := withoutRoot parts
  match parts.mapM number? with
  | none => false
  | some numbers =>
      numbers.length ≤ 4
        && numbers.dropLast.all (· ≤ 255)
        && (match numbers.getLast? with
            | some last => last < Nat.pow 256 (5 - numbers.length)
            | none => false)

def isPlainByte (s : List Char) : Bool :=
  match Text.natOfText? s with
  | some n => n ≤ 255 && (s.length == 1 || s.head? != some '0')
  | none => false

def isByteTail (s : List Char) : Bool :=
  let parts := Text.split '.' s
  parts.length == 4 && parts.all isPlainByte

-- Whether a text goes on as groups after some of them, one run of which may be left out. The fuel is more
-- than the length of the text.
def groupsFrom (seen : Nat) (shortened : Bool) : Nat → List Char → Bool
  | 0, _ => false
  | _ + 1, [] => shortened || seen == 8
  | fuel + 1, c :: rest =>
      if seen == 8 then false
      else if c = ':' then !shortened && groupsFrom (seen + 1) true fuel rest
      else
        let digits := ((c :: rest).take 4).takeWhile fun d => (hexValue? d).isSome
        match (c :: rest).drop digits.length with
        | [] => shortened || seen + 1 == 8
        | ':' :: after => !after.isEmpty && groupsFrom (seen + 1) shortened fuel after
        | '.' :: _ =>
            !digits.isEmpty && seen ≤ 6 && isByteTail (c :: rest) && (shortened || seen + 2 == 8)
        | _ => false

def isGroups : List Char → Bool
  | ':' :: ':' :: rest => groupsFrom 1 true (rest.length + 1) rest
  | ':' :: _ => false
  | s => 2 ≤ s.length && groupsFrom 0 false (s.length + 1) s

end Storefront.Url.Address
