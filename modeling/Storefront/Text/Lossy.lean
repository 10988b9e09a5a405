namespace Storefront.Text

-- A character of which some bytes are read: how many are left, and the bounds of the next one.
structure Pending where
  missing : Nat
  code : Nat
  least : Nat := 0x80
  most : Nat := 0xBF

def begin (b : Nat) : List Char × Option Pending :=
  if b < 0x80 then ([Char.ofNat b], none)
  else if 0xC2 ≤ b ∧ b < 0xE0 then ([], some { missing := 1, code := b - 0xC0 })
  else if 0xE0 ≤ b ∧ b < 0xF0 then
    ([], some { missing := 2, code := b - 0xE0, least := if b = 0xE0 then 0xA0 else 0x80,
                most := if b = 0xED then 0x9F else 0xBF })
  else if 0xF0 ≤ b ∧ b < 0xF5 then
    ([], some { missing := 3, code := b - 0xF0, least := if b = 0xF0 then 0x90 else 0x80,
                most := if b = 0xF4 then 0x8F else 0xBF })
  else (['\ufffd'], none)

def lossyFrom : Option Pending → List UInt8 → List Char
  | none, [] => []
  | some _, [] => ['\ufffd']
  | none, b :: rest =>
      let (read, pending) := begin b.toNat
      read ++ lossyFrom pending rest
  | some p, b :: rest =>
      if p.least ≤ b.toNat ∧ b.toNat ≤ p.most then
        let code := p.code * 64 + (b.toNat - 0x80)
        if p.missing = 1 then Char.ofNat code :: lossyFrom none rest
        else lossyFrom (some { missing := p.missing - 1, code }) rest
      else
        let (read, pending) := begin b.toNat
        '\ufffd' :: (read ++ lossyFrom pending rest)

def lossy (bytes : List UInt8) : String := String.ofList (lossyFrom none bytes)

end Storefront.Text
