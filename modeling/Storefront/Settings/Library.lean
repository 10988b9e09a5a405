import Storefront.Files
import Storefront.Settings.Basic
import Storefront.Settings.Fault

namespace Storefront.Settings

inductive Source where
  | text (content : String)
  | file (path : String) (required : Bool)
  deriving DecidableEq, Repr

abbrev Document := List (String × Tree)

class Library where
  Builder : Type
  Config : Type
  builder : Builder
  addSource : Builder → Source → Builder
  setOverride : Builder → String → Tree → Except Fault Builder
  build : Builder → Files → Except Fault Config
  deserialize : Config → Except Fault Settings
  -- The parts below are not called by a loader. They are what the calls above are documented with.
  resolve? : Files → String → Option (String × String)
  parse : Option String → String → Except Fault Document
  empty : Config
  collectTo : Files → Config → Source → Except Fault Config
  set : Config → String → Tree → Config
  get? : Config → String → Option Tree
  text? : Tree → Option String
  list? : Tree → Option (List Tree)

end Storefront.Settings
