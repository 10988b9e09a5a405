import Storefront.Binary64

namespace Storefront

structure Decimal where
  digits : Nat
  exponent : Int
  deriving DecidableEq, Repr, Inhabited

namespace Decimal

def digitCount (n : Nat) : Nat := (Nat.toDigits 10 n).length

def leadingExponent (num den : Nat) : Int :=
  if den ≤ num then digitCount (num / den) - 1
  else
    match (List.range 400).find? fun k => den ≤ num * Nat.pow 10 k with
    | some k => -k
    | none => -400

def onGrid? (rank : Nat) (power : Int) : Option Decimal :=
  let up := Nat.pow 10 (-power).toNat
  let middle := 2 * Binary64.units rank * up
  let low := (Binary64.units rank + Binary64.units (rank - 1)) * up
  let high := (Binary64.units rank + Binary64.units (rank + 1)) * up
  let den := Nat.pow 2 1075 * Nat.pow 10 power.toNat
  let inside (d : Nat) : Bool :=
    if rank % 2 = 0 then low ≤ d * den && d * den ≤ high else low < d * den && d * den < high
  let below := middle / den
  let nearest := Binary64.roundHalfEven middle den
  if inside below && inside (below + 1) then some ⟨nearest, power⟩
  else if inside below then some ⟨below, power⟩
  else if inside (below + 1) then some ⟨below + 1, power⟩
  else none

def stripZeros : Nat → Decimal → Decimal
  | 0, d => d
  | fuel + 1, d =>
      if d.digits ≠ 0 ∧ d.digits % 10 = 0 then stripZeros fuel ⟨d.digits / 10, d.exponent + 1⟩ else d

def shortest (rank : Nat) : Decimal :=
  if rank = 0 then ⟨0, 0⟩
  else
    let leading := leadingExponent (Binary64.units rank) (Nat.pow 2 1074)
    let found := (List.range 17).findSome? fun (k : Nat) => onGrid? rank (leading - k)
    stripZeros 20 (found.getD ⟨0, 0⟩)

structure Layout where
  positional : Option (Int × Int)
  pointed : Bool
  signed : Bool

def Layout.json : Layout := ⟨some (-5, 15), true, true⟩

def Layout.plain : Layout := ⟨none, false, false⟩

def Layout.dump : Layout := ⟨some (-4, 15), true, false⟩

def zeros (n : Nat) : List Char := List.replicate n '0'

def withPoint (layout : Layout) (ds : List Char) (leading : Int) : List Char :=
  if leading < 0 then '0' :: '.' :: (zeros (-leading - 1).toNat ++ ds)
  else
    let whole := leading.toNat + 1
    if whole < ds.length then ds.take whole ++ '.' :: ds.drop whole
    else ds ++ zeros (whole - ds.length) ++ (if layout.pointed then ['.', '0'] else [])

def withExponent (layout : Layout) (ds : List Char) (leading : Int) : List Char :=
  let mantissa := match ds with
    | d :: e :: rest => d :: '.' :: e :: rest
    | short => short
  let sign := if leading < 0 then ['-'] else if layout.signed then ['+'] else []
  mantissa ++ 'e' :: (sign ++ Nat.toDigits 10 leading.natAbs)

def write (layout : Layout) (d : Decimal) : List Char :=
  let ds := Nat.toDigits 10 d.digits
  let leading := d.exponent + ds.length - 1
  match layout.positional with
  | none => withPoint layout ds leading
  | some (least, greatest) =>
      if d.digits = 0 ∨ (least ≤ leading ∧ leading ≤ greatest) then withPoint layout ds leading
      else withExponent layout ds leading

end Decimal

def Binary64.write (layout : Decimal.Layout) (x : Binary64) : List Char :=
  let magnitude := (Decimal.shortest x.rank).write layout
  if x.negative then '-' :: magnitude else magnitude

end Storefront
