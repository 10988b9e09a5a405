namespace Storefront

structure Binary64 where
  negative : Bool
  rank : Nat
  deriving DecidableEq, Repr, Inhabited

namespace Binary64

def limit : Nat := 2047 * Nat.pow 2 52

def roundHalfEven (num den : Nat) : Nat :=
  let quotient := num / den
  let rest := num % den
  if den < 2 * rest || (2 * rest == den && quotient % 2 == 1) then quotient + 1 else quotient

def rankOfRatio (num den : Nat) : Nat :=
  let scaled := num * Nat.pow 2 1074
  let shift := (scaled / den).log2 - 52
  shift * Nat.pow 2 52 + roundHalfEven scaled (den * Nat.pow 2 shift)

def units (rank : Nat) : Nat :=
  let shift := rank / Nat.pow 2 52 - 1
  (rank - shift * Nat.pow 2 52) * Nat.pow 2 shift

def mulRank (a b : Nat) : Nat := rankOfRatio (units a * units b) (Nat.pow 2 2148)

def divRank (a b : Nat) : Nat := rankOfRatio (units a) (units b)

def zero : Binary64 := ⟨false, 0⟩

def ofInt (n : Int) : Binary64 := ⟨n < 0, rankOfRatio n.natAbs 1⟩

def ordinal (x : Binary64) : Int := if x.negative then -x.rank else x.rank

def same (x y : Binary64) : Bool := x.ordinal == y.ordinal

theorem same_iff {x y : Binary64} : x.same y = true ↔ x.ordinal = y.ordinal := by
  simp [same]

end Binary64

end Storefront
