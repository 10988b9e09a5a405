import Storefront.Text.Split
import Storefront.Url.Domain.Composition
import Storefront.Url.Domain.Direction
import Storefront.Url.Domain.Joining
import Storefront.Url.Domain.Mapping
import Storefront.Url.Punycode

namespace Storefront.Url.Domain

def isAscii (s : List Char) : Bool := s.all fun c => c.toNat < 128

def decodeLabel? (code : List Char) : Option (List Char) :=
  if !isAscii code || code.isEmpty || code.getLast? == some '-' then none
  else
    match Punycode.decode? code with
    | some label =>
        let stable := label.all fun c => c.toNat < 128 || isStable c
        if stable && normalize label == label then some label else none
    | none => none

def meaning? : List Char → Option (List Char)
  | 'x' :: 'n' :: '-' :: '-' :: code => decodeLabel? code
  | label => some label

def labels? (domain : List Char) : Option (List (List Char)) :=
  match domain.mapM reading? with
  | none => none
  | some readings =>
      let labels := Text.split '.' readings.flatten
      match labels.mapM meaning? with
      | none => none
      | some meanings =>
          let fit := meanings.all (fun m => marksFit m && joinersFit [] m)
          let directed := !meanings.any hasRightToLeft || meanings.all hasOneDirection
          if fit && directed then some labels else none

end Storefront.Url.Domain
