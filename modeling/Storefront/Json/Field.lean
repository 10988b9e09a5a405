import Storefront.Json.Fault

namespace Storefront.Json

def scalarText? : Json → Option String
  | .array _ => none
  | .object _ => none
  | v => v.display

def fieldText (v : Option Json) : String := (v.bind scalarText?).getD ""

def textEntries : Json → Dictionary String
  | .object entries => entries.filterMap fun e => e.2.asString?.map fun s => (e.1, s)
  | _ => []

end Storefront.Json
