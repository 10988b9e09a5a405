import Storefront.Json.Printer
import Storefront.Text.Quoted

namespace Storefront.Json

inductive Malformed where
  | wrongType (found : Json) (record : String)
  | duplicateField (field : String)
  | tooLong (length : Nat)
  deriving Repr, BEq

def describe : Json → String
  | .null => "null"
  | .bool b => s!"boolean \x60{b}\x60"
  | .number (.integer n) => s!"integer \x60{n}\x60"
  | .number (.float x) => "floating point \x60" ++ String.ofList (x.write .json) ++ "\x60"
  | .string s => "string " ++ Text.quoted s
  | .array _ => "sequence"
  | .object _ => "map"

def Malformed.message : Malformed → String
  | .wrongType found record => s!"invalid type: {found.describe}, expected struct {record}"
  | .duplicateField field => s!"duplicate field \x60{field}\x60"
  | .tooLong length => s!"invalid length {length}, expected fewer elements in array"

inductive Fault where
  | endInValue
  | endInList
  | endInObject
  | endInString
  | expectedColon
  | expectedListEnd
  | expectedObjectEnd
  | expectedWord
  | expectedValue
  | keyNotString
  | invalidEscape
  | invalidNumber
  | outOfRange
  | loneSurrogate
  | unpairedSurrogate
  | controlCharacter
  | trailingComma
  | trailingCharacters
  | tooDeep
  | malformed (cause : Malformed)
  deriving Repr, BEq

def Fault.message : Fault → String
  | .endInValue => "EOF while parsing a value"
  | .endInList => "EOF while parsing a list"
  | .endInObject => "EOF while parsing an object"
  | .endInString => "EOF while parsing a string"
  | .expectedColon => "expected \x60:\x60"
  | .expectedListEnd => "expected \x60,\x60 or \x60]\x60"
  | .expectedObjectEnd => "expected \x60,\x60 or \x60\x7d\x60"
  | .expectedWord => "expected ident"
  | .expectedValue => "expected value"
  | .keyNotString => "key must be a string"
  | .invalidEscape => "invalid escape"
  | .invalidNumber => "invalid number"
  | .outOfRange => "number out of range"
  | .loneSurrogate => "lone leading surrogate in hex escape"
  | .unpairedSurrogate => "unexpected end of hex escape"
  | .controlCharacter => "control character (\\u0000-\\u001F) found while parsing a string"
  | .trailingComma => "trailing comma"
  | .trailingCharacters => "trailing characters"
  | .tooDeep => "recursion limit exceeded"
  | .malformed cause => cause.message

structure Failure where
  fault : Fault
  index : Nat
  deriving Repr, BEq

def position (text : List Char) (index : Nat) : Nat × Nat :=
  go text 0 1 0
where
  go : List Char → Nat → Nat → Nat → Nat × Nat
    | [], _, line, start => (line, index - start)
    | c :: rest, at_, line, start =>
        if index ≤ at_ then (line, index - start)
        else if c = '\n' then go rest (at_ + 1) (line + 1) (at_ + 1)
        else go rest (at_ + c.utf8Size) line start

def Failure.message (text : List Char) (f : Failure) : String :=
  let (line, column) := position text f.index
  s!"{f.fault.message} at line {line} column {column}"

end Storefront.Json
