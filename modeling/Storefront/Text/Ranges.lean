namespace Storefront.Text

def inRanges : List (Nat × Nat) → Nat → Bool
  | [], _ => false
  | (first, last) :: rest, n => if n < first then false else if n ≤ last then true else inRanges rest n

def inRuns : List (Nat × Nat × Nat) → Nat → Bool
  | [], _ => false
  | (start, count, stride) :: rest, n =>
      if n < start then false
      else if n < start + count * stride && (n - start) % stride == 0 then true
      else inRuns rest n

end Storefront.Text
