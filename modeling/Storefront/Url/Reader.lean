namespace Storefront

class UrlReader where
  Absolute : Type
  parse? : String → Option Absolute
  scheme : Absolute → String

def isSitePath : List Char → Bool
  | '/' :: '/' :: _ => false
  | '/' :: '\\' :: _ => false
  | '/' :: _ => true
  | _ => false

def isOnWeb [UrlReader] (target : String) : Bool :=
  match UrlReader.parse? target with
  | some url => UrlReader.scheme url == "http" || UrlReader.scheme url == "https"
  | none => false

def isNavigable [UrlReader] (target : String) : Bool :=
  match target.toList with
  | '/' :: rest => isSitePath ('/' :: rest)
  | _ => isOnWeb target

end Storefront
