namespace Storefront.Text

def digitValue (c : Char) : Nat := c.toNat - '0'.toNat

def natOfDigits (digits : List Char) : Nat :=
  digits.foldl (fun n c => n * 10 + digitValue c) 0

def natOfText? (s : List Char) : Option Nat :=
  if !s.isEmpty && s.all Char.isDigit then some (natOfDigits s) else none

theorem natOfText?_eq_some {s : List Char} {n : Nat} (h : natOfText? s = some n) :
    s ≠ [] ∧ s.all Char.isDigit = true := by
  simp only [natOfText?] at h
  split at h
  · simp_all
  · simp at h

end Storefront.Text
