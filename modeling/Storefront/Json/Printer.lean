import Storefront.Json.Basic
import Storefront.Decimal

namespace Storefront

def Number.write : Number → List Char
  | .integer n => if n < 0 then '-' :: Nat.toDigits 10 n.natAbs else Nat.toDigits 10 n.natAbs
  | .float x => x.write .json

namespace Json

def hexPair (n : Nat) : List Char :=
  let ds := Nat.toDigits 16 n
  if ds.length < 2 then '0' :: ds else ds

def escape (c : Char) : List Char :=
  if c = '"' then ['\\', '"']
  else if c = '\\' then ['\\', '\\']
  else if c = '\x08' then ['\\', 'b']
  else if c = '\x0c' then ['\\', 'f']
  else if c = '\n' then ['\\', 'n']
  else if c = '\r' then ['\\', 'r']
  else if c = '\t' then ['\\', 't']
  else if c < ' ' then '\\' :: 'u' :: '0' :: '0' :: hexPair c.toNat
  else [c]

def quote (s : String) : List Char := '"' :: (s.toList.flatMap escape ++ ['"'])

mutual
def chars : Json → List Char
  | .null => "null".toList
  | .bool true => "true".toList
  | .bool false => "false".toList
  | .number n => n.write
  | .string s => quote s
  | .array items => '[' :: (itemChars items ++ [']'])
  | .object entries => '{' :: (entryChars entries ++ ['}'])

def itemChars : List Json → List Char
  | [] => []
  | [v] => v.chars
  | v :: w :: rest => v.chars ++ ',' :: itemChars (w :: rest)

def entryChars : List (String × Json) → List Char
  | [] => []
  | [(k, v)] => quote k ++ ':' :: v.chars
  | (k, v) :: e :: rest => quote k ++ ':' :: (v.chars ++ ',' :: entryChars (e :: rest))
end

def compress (v : Json) : String := String.ofList v.chars

def indent (depth : Nat) : List Char := List.replicate (2 * depth) ' '

mutual
def prettyChars (depth : Nat) : Json → List Char
  | .array [] => ['[', ']']
  | .object [] => ['{', '}']
  | .array items => '[' :: '\n' :: (prettyItems (depth + 1) items ++ '\n' :: (indent depth ++ [']']))
  | .object entries =>
      '{' :: '\n' :: (prettyEntries (depth + 1) entries ++ '\n' :: (indent depth ++ ['}']))
  | .null => "null".toList
  | .bool true => "true".toList
  | .bool false => "false".toList
  | .number n => n.write
  | .string s => quote s

def prettyItems (depth : Nat) : List Json → List Char
  | [] => []
  | [v] => indent depth ++ v.prettyChars depth
  | v :: w :: rest => indent depth ++ (v.prettyChars depth ++ ',' :: '\n' :: prettyItems depth (w :: rest))

def prettyEntries (depth : Nat) : List (String × Json) → List Char
  | [] => []
  | [(k, v)] => indent depth ++ (quote k ++ ':' :: ' ' :: v.prettyChars depth)
  | (k, v) :: e :: rest =>
      indent depth ++
        (quote k ++ ':' :: ' ' :: (v.prettyChars depth ++ ',' :: '\n' :: prettyEntries depth (e :: rest)))
end

def pretty (v : Json) : String := String.ofList (v.prettyChars 0)

def display : Json → Option String
  | .null => none
  | .string s => some s
  | v => some v.compress

end Json

end Storefront
