import Storefront.Decimal.Numeral
import Storefront.Toml.Moment
import Storefront.Toml.Value

namespace Storefront.Toml.Scalar

def grouped? (isDigit : Char → Bool) : List Char → Option (List Char)
  | [] => none
  | [c] => if isDigit c then some [c] else none
  | c :: '_' :: rest => if isDigit c then (grouped? isDigit rest).map (c :: ·) else none
  | c :: rest => if isDigit c then (grouped? isDigit rest).map (c :: ·) else none

def whole? (s : List Char) : Option (List Char) :=
  match grouped? Char.isDigit s with
  | some ('0' :: _ :: _) => none
  | digits => digits

def splitSign : List Char → Bool × List Char
  | '+' :: rest => (false, rest)
  | '-' :: rest => (true, rest)
  | rest => (false, rest)

def hexValue (c : Char) : Nat :=
  if c.isDigit then c.toNat - '0'.toNat else c.toLower.toNat - 'a'.toNat + 10

def isHexDigit (c : Char) : Bool := c.isDigit || ('a' ≤ c.toLower && c.toLower ≤ 'f')

def based? (base : Nat) (s : List Char) : Option Int :=
  (grouped? (fun c => isHexDigit c && hexValue c < base) s).map fun digits =>
    ((digits.foldl (fun n c => n * base + hexValue c) 0 : Nat) : Int)

def integer? (s : List Char) : Option Int :=
  let n := match s with
    | '0' :: 'x' :: rest => based? 16 rest
    | '0' :: 'o' :: rest => based? 8 rest
    | '0' :: 'b' :: rest => based? 2 rest
    | _ =>
        let (negative, rest) := splitSign s
        (whole? rest).map fun digits =>
          if negative then -(Text.natOfDigits digits : Int) else (Text.natOfDigits digits : Int)
  n.filter fun n => -Int.pow 2 63 ≤ n ∧ n < Int.pow 2 63

def exponent? : List Char → Option (List Char)
  | [] => some []
  | c :: rest =>
      if c = 'e' ∨ c = 'E' then
        match rest with
        | '+' :: digits => (grouped? Char.isDigit digits).map ('e' :: ·)
        | '-' :: digits => (grouped? Char.isDigit digits).map fun ds => 'e' :: '-' :: ds
        | digits => (grouped? Char.isDigit digits).map ('e' :: ·)
      else none

def isExponentMark (c : Char) : Bool := c == 'e' || c == 'E'

def fractional? : List Char → Option (List Char)
  | [] => none
  | '.' :: rest =>
      match grouped? Char.isDigit (rest.takeWhile fun c => !isExponentMark c),
          exponent? (rest.dropWhile fun c => !isExponentMark c) with
      | some digits, some exponent => some ('.' :: (digits ++ exponent))
      | _, _ => none
  | rest => exponent? rest

def real? (s : List Char) : Option Real :=
  let (negative, rest) := splitSign s
  if rest = "inf".toList then some (.infinite negative)
  else if rest = "nan".toList then some .notANumber
  else
    let isWhole (c : Char) : Bool := c.isDigit || c == '_'
    match whole? (rest.takeWhile isWhole), fractional? (rest.dropWhile isWhole) with
    | some whole, some fraction =>
        match Decimal.unsigned? (whole ++ fraction) with
        | some magnitude =>
            match Decimal.Numeral.toBinary64? ⟨negative, magnitude⟩ with
            | some x => some (.finite x)
            | none => if negative then some (.infinite true) else none
        | none => none
    | _, _ => none

def ofText? (s : List Char) : Option Value :=
  if s = "true".toList then some (.bool true)
  else if s = "false".toList then some (.bool false)
  else
    match Moment.ofText? s, integer? s, real? s with
    | some moment, _, _ => some (.moment (String.ofList moment))
    | none, some n, _ => some (.integer n)
    | none, none, some x => some (.real x)
    | none, none, none => none

end Storefront.Toml.Scalar
