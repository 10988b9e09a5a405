namespace Storefront.Url.Punycode

def digitValue? (c : Char) : Option Nat :=
  if 'a' ≤ c ∧ c ≤ 'z' then some (c.toNat - 'a'.toNat)
  else if '0' ≤ c ∧ c ≤ '9' then some (c.toNat - '0'.toNat + 26)
  else none

def threshold (place bias : Nat) : Nat :=
  if place ≤ bias then 1 else if bias + 26 ≤ place then 26 else place - bias

def shrink (delta counted : Nat) : Nat × Nat :=
  if 455 < delta then shrink (delta / 35) (counted + 36) else (delta, counted)
termination_by delta
decreasing_by exact Nat.div_lt_self (by omega) (by omega)

def adapt (delta length : Nat) (first : Bool) : Nat :=
  let damped := if first then delta / 700 else delta / 2
  let (rest, counted) := shrink (damped + damped / length) 0
  counted + 36 * rest / (rest + 38)

structure Progress where
  label : List Char
  codePoint : Nat := 128
  bias : Nat := 72
  start : Nat := 0
  number : Nat := 0
  place : Nat := 36
  weight : Nat := 1

def Progress.place? (p : Progress) (number : Nat) : Option Progress :=
  let length := p.label.length + 1
  let codePoint := p.codePoint + number / length
  if codePoint.isValidChar then
    let i := number % length
    some { label := p.label.insertIdx i (Char.ofNat codePoint), codePoint,
           bias := adapt (number - p.start) length (p.start == 0), start := i + 1, number := i + 1 }
  else none

def Progress.read? (p : Progress) : List Char → Option (List Char)
  | [] => if p.place = 36 then some p.label else none
  | c :: rest =>
      match digitValue? c with
      | none => none
      | some d =>
          let number := p.number + d * p.weight
          let least := threshold p.place p.bias
          if d < least then
            match p.place? number with
            | some next => next.read? rest
            | none => none
          else
            { p with number, place := p.place + 36, weight := p.weight * (36 - least) }.read? rest

def decode? (s : List Char) : Option (List Char) :=
  let numbers := (s.reverse.takeWhile (· != '-')).reverse
  match s.take (s.length - numbers.length - 1) with
  -- a hyphen at the beginning ends nothing
  | [] => Progress.read? { label := [] } s
  | plain => Progress.read? { label := plain } numbers

end Storefront.Url.Punycode
