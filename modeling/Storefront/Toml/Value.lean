import Storefront.Decimal

namespace Storefront.Toml

inductive Real where
  | finite (x : Binary64)
  | infinite (negative : Bool)
  | notANumber
  deriving DecidableEq, Repr

def Real.display : Real → String
  | .finite x => String.ofList (x.write .plain)
  | .infinite false => "inf"
  | .infinite true => "-inf"
  | .notANumber => "NaN"

inductive Value where
  | text (s : String)
  | integer (n : Int)
  | real (x : Real)
  | bool (b : Bool)
  | moment (s : String)
  | array (items : List Value)
  | table (entries : List (String × Value))
  deriving Repr, Inhabited

end Storefront.Toml
