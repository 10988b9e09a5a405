import Storefront.Url.Domain.Classes

namespace Storefront.Url.Domain

inductive Direction where
  | leftToRight
  | rightToLeft
  | arabicNumber
  | europeanNumber
  | mark
  | neutral
  deriving DecidableEq, Repr

def directionOf (c : Char) : Direction :=
  let n := c.toNat
  if n < 128 then
    if c.isAlpha then .leftToRight else if c.isDigit then .europeanNumber else .neutral
  else if Text.inRanges rightToLeftRanges n then .rightToLeft
  else if Text.inRanges arabicNumberRanges n then .arabicNumber
  else if Text.inRanges europeanNumberRanges n then .europeanNumber
  else if Text.inRanges nonspacingRanges n then .mark
  else if Text.inRanges neutralRanges n then .neutral
  else .leftToRight

def hasRightToLeft (label : List Char) : Bool :=
  label.any fun c => directionOf c == .rightToLeft || directionOf c == .arabicNumber

def endFirst (directions : List Direction) : List Direction :=
  directions.reverse.dropWhile (· == .mark)

def continuesLeftToRight (rest : List Direction) : Bool :=
  match endFirst rest with
  | [] => true
  | last :: before =>
      (last == .leftToRight || last == .europeanNumber)
        && before.all fun d => d != .rightToLeft && d != .arabicNumber

def continuesRightToLeft (rest : List Direction) : Bool :=
  match endFirst rest with
  | [] => true
  | last :: before =>
      last != .neutral && (last :: before).all (· != .leftToRight)
        && !((last :: before).contains .arabicNumber && (last :: before).contains .europeanNumber)

def hasOneDirection (label : List Char) : Bool :=
  match label.map directionOf with
  | [] => true
  | .leftToRight :: rest => continuesLeftToRight rest
  | .rightToLeft :: rest => continuesRightToLeft rest
  | _ => false

end Storefront.Url.Domain
