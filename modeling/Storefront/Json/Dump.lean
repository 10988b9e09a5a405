import Storefront.Json.Printer
import Storefront.Text.Quoted

namespace Storefront.Json

mutual
def dump : Json → String
  | .null => "Null"
  | .bool b => "Bool(" ++ toString b ++ ")"
  | .number n => "Number(" ++ String.ofList n.write ++ ")"
  | .string s => "String(" ++ Text.quoted s ++ ")"
  | .array items => "Array [" ++ ", ".intercalate (dumpItems items) ++ "]"
  | .object entries => "Object \x7b" ++ ", ".intercalate (dumpEntries entries) ++ "\x7d"

def dumpItems : List Json → List String
  | [] => []
  | v :: rest => v.dump :: dumpItems rest

def dumpEntries : List (String × Json) → List String
  | [] => []
  | (k, v) :: rest => (Text.quoted k ++ ": " ++ v.dump) :: dumpEntries rest
end

end Storefront.Json
