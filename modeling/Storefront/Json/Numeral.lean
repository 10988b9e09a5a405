import Storefront.Json.Cursor
import Storefront.Text.Digits

namespace Storefront.Json

def maxWord : Nat := Nat.pow 2 64 - 1

def maxExponent : Nat := Nat.pow 2 31 - 1

def absorb (n : Nat) : List Char → Nat × List Char
  | [] => (n, [])
  | d :: ds =>
      let m := n * 10 + Text.digitValue d
      if m ≤ maxWord then absorb m ds else (n, d :: ds)

def scaleRank? : Nat → Nat → Int → Option Nat
  | fuel, rank, exponent =>
      if rank = 0 then some 0
      else if exponent.natAbs ≤ 308 then
        let power := Binary64.rankOfRatio (Nat.pow 10 exponent.natAbs) 1
        if exponent < 0 then some (Binary64.divRank rank power)
        else
          let scaled := Binary64.mulRank rank power
          if scaled < Binary64.limit then some scaled else none
      else if 0 ≤ exponent then none
      else match fuel with
        | 0 => some 0
        | fuel + 1 =>
            scaleRank? fuel (Binary64.divRank rank (Binary64.rankOfRatio (Nat.pow 10 308) 1)) (exponent + 308)

namespace Scan

def float (negative : Bool) (significand : Nat) (exponent : Int) : Scan Number := do
  match scaleRank? 3 (Binary64.rankOfRatio significand 1) exponent with
  | some rank => pure (.float ⟨negative, rank⟩)
  | none => failHere .outOfRange

def exponentDigits (n : Nat) : List Char → Scan (Option Nat)
  | [] => pure (some n)
  | d :: ds => do
      skip
      let m := n * 10 + Text.digitValue d
      if m ≤ maxExponent then exponentDigits m ds else pure none

def withExponent (negative : Bool) (significand : Nat) (before : Int) : Scan Number := do
  skip
  let down ← do
    match ← peek with
    | some '+' => skip; pure false
    | some '-' => skip; pure true
    | _ => pure false
  match ← peek with
  | none => failHere .endInValue
  | some d =>
      if !d.isDigit then failAhead .invalidNumber
      else
        let digits := (← get).rest.takeWhile Char.isDigit
        match ← exponentDigits 0 digits with
        | some e => float negative significand (if down then before - e else before + e)
        | none =>
            if significand ≠ 0 ∧ !down then failHere .outOfRange
            else do
              let _ ← run Char.isDigit
              pure (.float ⟨negative, 0⟩)

def finishFloat (negative : Bool) (significand : Nat) (exponent : Int) : Scan Number := do
  match ← peek with
  | some 'e' => withExponent negative significand exponent
  | some 'E' => withExponent negative significand exponent
  | _ => float negative significand exponent

def withFraction (negative : Bool) (significand : Nat) (before : Int) : Scan Number := do
  skip
  let digits ← run Char.isDigit
  match digits with
  | [] =>
      match ← peek with
      | none => failHere .endInValue
      | some _ => failAhead .invalidNumber
  | _ =>
      let (n, left) := absorb significand digits
      finishFloat negative n (before - (digits.length - left.length : Nat))

def ofWord (negative : Bool) (n : Nat) : Number :=
  if negative then
    if n = 0 ∨ Nat.pow 2 63 < n then .float ⟨true, Binary64.rankOfRatio n 1⟩ else .integer (-n)
  else .integer n

def unsigned (negative : Bool) : Scan Number := do
  match ← peek with
  | none => failHere .endInValue
  | some d =>
      if !d.isDigit then failAhead .invalidNumber
      else do
        let digits ← if d = '0' then do skip; pure ['0'] else run Char.isDigit
        match d, ← peek with
        | '0', some c => if c.isDigit then failAhead .invalidNumber else pure ()
        | _, _ => pure ()
        let (n, left) := absorb 0 digits
        match ← peek with
        | some '.' => withFraction negative n left.length
        | some 'e' => withExponent negative n left.length
        | some 'E' => withExponent negative n left.length
        | _ => if left.isEmpty then pure (ofWord negative n) else float negative n left.length

def number : Scan Number := do
  match ← peek with
  | some '-' => skip; unsigned true
  | _ => unsigned false

end Scan

end Storefront.Json
