import Storefront.Url.Domain.Classes

namespace Storefront.Url.Domain

def nonJoiner : Char := '\u200c'

def joiner : Char := '\u200d'

def isMark (c : Char) : Bool := Text.inRanges markRanges c.toNat

def isVirama (c : Char) : Bool := Text.inRanges viramaRanges c.toNat

def firstOpaque (ranges : List (Nat × Nat)) (s : List Char) : Bool :=
  match s.dropWhile fun c => Text.inRanges transparentRanges c.toNat with
  | c :: _ => Text.inRanges ranges c.toNat
  | [] => false

def joinersFit (before : List Char) : List Char → Bool
  | [] => true
  | c :: rest =>
      (!(c == joiner || c == nonJoiner)
        || (match before with | d :: _ => isVirama d | [] => false)
        || (c == nonJoiner && firstOpaque joinsNextRanges before && firstOpaque joinsPreviousRanges rest))
      && joinersFit (c :: before) rest

def marksFit : List Char → Bool
  | [] => true
  | c :: _ => !isMark c

end Storefront.Url.Domain
