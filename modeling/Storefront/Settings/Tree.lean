import Storefront.Text.Quoted
import Storefront.Toml.Value

namespace Storefront.Settings

inductive Scalar where
  | null
  | bool (b : Bool)
  | integer (n : Int)
  | real (x : Toml.Real)
  | text (s : String)
  deriving DecidableEq, Repr

inductive Tree where
  | scalar (origin : Option String) (value : Scalar)
  | array (origin : Option String) (items : List Tree)
  | table (origin : Option String) (entries : List (String × Tree))
  deriving Repr, Inhabited

def Scalar.pointed : Toml.Real → String
  | .finite x => String.ofList (x.write { Decimal.Layout.plain with pointed := true })
  | x => x.display

def Scalar.describe : Scalar → String
  | .null => "unit value"
  | .bool b => s!"boolean \x60{b}\x60"
  | .integer n => s!"integer \x60{n}\x60"
  | .real x => s!"floating point \x60{pointed x}\x60"
  | .text s => "string " ++ Text.quoted s

namespace Tree

def describe : Tree → String
  | .scalar _ v => v.describe
  | .array .. => "sequence"
  | .table .. => "map"

def origin : Tree → Option String
  | .scalar origin _ => origin
  | .array origin _ => origin
  | .table origin _ => origin

def null : Tree := .scalar none .null

def text (s : String) : Tree := .scalar none (.text s)

end Tree

end Storefront.Settings
