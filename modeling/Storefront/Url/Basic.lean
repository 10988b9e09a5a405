import Storefront.Url.Host
import Storefront.Url.Reader

namespace Storefront

inductive Url where
  | http (host : Url.Host)
  | https (host : Url.Host)
  | other (scheme : List Char)
  deriving Repr

namespace Url

def isControlOrSpace (c : Char) : Bool := c ≤ ' '

def isTabOrBreak (c : Char) : Bool := c == '\t' || c == '\n' || c == '\r'

def clean (s : List Char) : List Char :=
  let trimmed := ((s.dropWhile isControlOrSpace).reverse.dropWhile isControlOrSpace).reverse
  trimmed.filter fun c => !isTabOrBreak c

def isSchemeChar (c : Char) : Bool := c.isAlphanum || c == '+' || c == '-' || c == '.'

def scheme? (s : List Char) : Option (List Char × List Char) :=
  match s.head?, s.dropWhile isSchemeChar with
  | some c, ':' :: rest =>
      if c.isAlpha then some ((s.takeWhile isSchemeChar).map Char.toLower, rest) else none
  | _, _ => none

def isSlash (c : Char) : Bool := c == '/' || c == '\\'

def endsAuthority (c : Char) : Bool := isSlash c || c == '?' || c == '#'

def withoutUser (authority : List Char) : List Char :=
  (authority.reverse.takeWhile (· != '@')).reverse

def splitHost (bracketed : Bool) : List Char → List Char × Option (List Char)
  | [] => ([], none)
  | c :: rest =>
      if c = ':' ∧ !bracketed then ([], some rest)
      else
        let (host, number) :=
          splitHost (if c = '[' then true else if c = ']' then false else bracketed) rest
        (c :: host, number)

def hasSixteenBits (digits : List Char) : Bool :=
  digits.all Char.isDigit && Text.natOfDigits digits < 65536

def host? (rest : List Char) : Option Host :=
  let authority := (rest.dropWhile isSlash).takeWhile fun c => !endsAuthority c
  match splitHost false (withoutUser authority) with
  | (host, some number) => if hasSixteenBits number then Host.ofText? host else none
  | (host, none) => Host.ofText? host

def ofText? (s : List Char) : Option Url :=
  match scheme? (clean s) with
  | none => none
  | some (scheme, rest) =>
      if scheme = "http".toList then (host? rest).map .http
      else if scheme = "https".toList then (host? rest).map .https
      else some (.other scheme)

def scheme : Url → String
  | .http _ => "http"
  | .https _ => "https"
  | .other scheme => String.ofList scheme

instance reader : UrlReader where
  Absolute := Url
  parse? target := ofText? target.toList
  scheme := scheme

end Url

end Storefront
