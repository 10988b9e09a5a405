import Storefront.Block.Reader
import Storefront.Plan.Drawing
import Storefront.Plan.Walk
import Storefront.Plan.Writer

namespace Storefront

inductive View where
  | json
  | tree
  | diagnostics
  deriving DecidableEq, Repr

namespace View

def all : List View := [.json, .tree, .diagnostics]

def name : View → String
  | .json => "plan-json"
  | .tree => "plan-treeviz"
  | .diagnostics => "diagnostics"

def default : View := .tree

def ofName? (name : String) : Option View := all.find? fun v => v.name == name

def render (v : View) (p : Plan) (params : Dictionary String) : String :=
  match v with
  | .json => p.toJson.pretty ++ "\n"
  | .tree => p.draw (Plan.wantsFull params)
  | .diagnostics => p.reportsToJson.pretty ++ "\n"

inductive Refusal where
  | invalidPage (source : List Char) (failure : Json.Failure)
  | unknownView (name : String)

def Refusal.message : Refusal → String
  | .invalidPage source failure => "Invalid page: " ++ failure.message source
  | .unknownView name => "Unknown transform: " ++ name

def showPage (options : WalkOptions) (page : Json) (source name : String) (params : Dictionary String) :
    Except Refusal (String × List Notice) :=
  match Block.ofText source.toList with
  | .error failure => .error (.invalidPage source.toList failure)
  | .ok r =>
      let p := Plan.ofPage options page r.result
      match ofName? name with
      | none => .error (.unknownView name)
      | some v =>
          .ok (v.render p params,
            r.skipped.map .skipped ++ p.reports.map fun e => .tolerated e.diagnostic e.key)

end View

end Storefront
