import Storefront.Decimal
import Storefront.Text.Digits

namespace Storefront.Decimal

structure Numeral where
  negative : Bool
  magnitude : Decimal
  deriving DecidableEq, Repr

def exponent? : List Char → Option Int
  | '+' :: ds => (Text.natOfText? ds).map Int.ofNat
  | '-' :: ds => (Text.natOfText? ds).map fun n => -Int.ofNat n
  | ds => (Text.natOfText? ds).map Int.ofNat

def unsigned? (s : List Char) : Option Decimal :=
  let whole := s.takeWhile Char.isDigit
  let afterWhole := s.dropWhile Char.isDigit
  let (fraction, afterFraction) := match afterWhole with
    | '.' :: rest => (rest.takeWhile Char.isDigit, rest.dropWhile Char.isDigit)
    | rest => ([], rest)
  if whole.isEmpty && fraction.isEmpty then none
  else
    let digits := Text.natOfDigits (whole ++ fraction)
    match afterFraction with
    | [] => some ⟨digits, -fraction.length⟩
    | c :: rest =>
        if c = 'e' ∨ c = 'E' then
          (exponent? rest).map fun e => ⟨digits, e - fraction.length⟩
        else none

def Numeral.ofText? : List Char → Option Numeral
  | '+' :: rest => (unsigned? rest).map (⟨false, ·⟩)
  | '-' :: rest => (unsigned? rest).map (⟨true, ·⟩)
  | rest => (unsigned? rest).map (⟨false, ·⟩)

def nearestRank (d : Decimal) : Nat :=
  let leading := d.exponent + digitCount d.digits - 1
  if d.digits = 0 ∨ leading < -400 then 0
  else if 400 < leading then Binary64.limit
  else Binary64.rankOfRatio (d.digits * Nat.pow 10 d.exponent.toNat) (Nat.pow 10 (-d.exponent).toNat)

def Numeral.toBinary64? (n : Numeral) : Option Binary64 :=
  let rank := nearestRank n.magnitude
  if rank < Binary64.limit then some ⟨n.negative, rank⟩ else none

end Storefront.Decimal
