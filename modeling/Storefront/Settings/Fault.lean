import Storefront.Settings.Tree
import Storefront.Toml.Parser

namespace Storefront.Settings

inductive Fault where
  | badKey (key : String)
  | missingFile (path : String)
  | badFile (file : String) (place : Toml.Fault)
  | badText (place : Toml.Fault)
  | notText (found : Tree) (key : String)
  | notList (found : Tree)
  | notRecord (found : Tree) (record : String)
  | tooShort (length : Nat) (record : String) (fields : Nat)
  | missingField (field : String)
  deriving Repr

def Fault.message : Fault → String
  | .badKey key => s!"invalid key {key}"
  | .missingFile path => s!"configuration file \"{path}\" not found"
  | .badFile file place => s!"TOML parse error at line {place.line}, column {place.column}\n in {file}"
  | .badText place => s!"TOML parse error at line {place.line}, column {place.column}"
  | .notText found key =>
      let source := match found.origin with
        | some file => s!" in {file}"
        | none => ""
      s!"invalid type: {found.describe}, expected a string for key \x60{key}\x60{source}"
  | .notList found => s!"invalid type: {found.describe}, expected a sequence"
  | .notRecord found record => s!"invalid type: {found.describe}, expected struct {record}"
  | .tooShort length record fields =>
      let elements := if fields = 1 then "1 element" else s!"{fields} elements"
      s!"invalid length {length}, expected struct {record} with {elements}"
  | .missingField field => s!"missing field \x60{field}\x60"

end Storefront.Settings
