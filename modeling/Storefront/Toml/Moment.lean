import Storefront.Text.Digits

namespace Storefront.Toml.Moment

def pair? (a b : Char) (least greatest : Nat) : Option Nat :=
  match Text.natOfText? [a, b] with
  | some n => if least ≤ n ∧ n ≤ greatest then some n else none
  | none => none

def isLeapYear (year : Nat) : Bool := year % 4 == 0 && (year % 100 != 0 || year % 400 == 0)

def daysIn (year month : Nat) : Nat :=
  if month = 2 then if isLeapYear year then 29 else 28
  else if month ∈ [4, 6, 9, 11] then 30
  else 31

def date? : List Char → Option (List Char × List Char)
  | y₁ :: y₂ :: y₃ :: y₄ :: '-' :: m₁ :: m₂ :: '-' :: d₁ :: d₂ :: rest =>
      match Text.natOfText? [y₁, y₂, y₃, y₄], pair? m₁ m₂ 1 12 with
      | some year, some month =>
          match pair? d₁ d₂ 1 (daysIn year month) with
          | some _ => some ([y₁, y₂, y₃, y₄, '-', m₁, m₂, '-', d₁, d₂], rest)
          | none => none
      | _, _ => none
  | _ => none

def fraction (digits : List Char) : List Char :=
  match ((digits.take 9).reverse.dropWhile (· == '0')).reverse with
  | [] => []
  | kept => '.' :: kept

def time? : List Char → Option (List Char × List Char)
  | h₁ :: h₂ :: ':' :: m₁ :: m₂ :: ':' :: s₁ :: s₂ :: rest =>
      match pair? h₁ h₂ 0 23, pair? m₁ m₂ 0 59, pair? s₁ s₂ 0 60 with
      | some _, some _, some _ =>
          let time := [h₁, h₂, ':', m₁, m₂, ':', s₁, s₂]
          match rest with
          | '.' :: more =>
              let digits := more.takeWhile Char.isDigit
              if digits.isEmpty then none
              else some (time ++ fraction digits, more.dropWhile Char.isDigit)
          | _ => some (time, rest)
      | _, _, _ => none
  | _ => none

def offset? : List Char → Option (List Char)
  | [] => some []
  | ['Z'] => some ['Z']
  | ['z'] => some ['Z']
  | [sign, h₁, h₂, ':', m₁, m₂] =>
      match pair? h₁ h₂ 0 23, pair? m₁ m₂ 0 59 with
      | some hours, some minutes =>
          if sign = '+' ∨ (sign = '-' ∧ hours + minutes = 0) then some ['+', h₁, h₂, ':', m₁, m₂]
          else if sign = '-' then some ['-', h₁, h₂, ':', m₁, m₂]
          else none
      | _, _ => none
  | _ => none

def joins (c : Char) : Bool := c == 'T' || c == 't' || c == ' '

def ofText? (s : List Char) : Option (List Char) :=
  match date? s with
  | some (date, []) => some date
  | some (date, c :: rest) =>
      if joins c then
        match time? rest with
        | some (time, rest) => (offset? rest).map fun offset => date ++ 'T' :: (time ++ offset)
        | none => none
      else none
  | none =>
      match time? s with
      | some (time, []) => some time
      | _ => none

end Storefront.Toml.Moment
