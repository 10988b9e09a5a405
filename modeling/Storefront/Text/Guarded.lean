namespace Storefront.Text

def guard (c : Char) : List Char :=
  let n := c.toNat
  if n = 0x07 ∨ n = 0x08 ∨ n = 0x0c then ['\\', 'x', '0'] ++ Nat.toDigits 16 n
  else if n = 0x1b ∨ n = 0x7f then ['\\', 'x'] ++ Nat.toDigits 16 n
  else if 0x80 ≤ n ∧ n ≤ 0x9f then ['\\', 'u', '{'] ++ Nat.toDigits 16 n ++ ['}']
  else [c]

def guarded (s : String) : String := String.ofList (s.toList.flatMap guard)

end Storefront.Text
