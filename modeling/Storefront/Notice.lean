import Storefront.Diagnostic
import Storefront.Json.Fault
import Storefront.Text.Guarded

namespace Storefront

inductive Level where
  | error
  | warn
  | info
  | debug
  | trace
  deriving DecidableEq, Repr

namespace Level

def name : Level → String
  | .error => "ERROR"
  | .warn => "WARN"
  | .info => "INFO"
  | .debug => "DEBUG"
  | .trace => "TRACE"

def verbosity : Level → Nat
  | .error => 1
  | .warn => 2
  | .info => 3
  | .debug => 4
  | .trace => 5

end Level

inductive Notice where
  | skipped (cause : Json.Malformed)
  | untested (diagnostic : Diagnostic) (field : String)
  | untriggered (diagnostic : Diagnostic) (action : String)
  | inert (destination : String)
  | tolerated (diagnostic : Diagnostic) (key : String)
  | inspecting (path view : String)
  deriving Repr

namespace Notice

def level : Notice → Level
  | .skipped _ => .debug
  | .untested .. => .warn
  | .untriggered .. => .warn
  | .inert _ => .debug
  | .tolerated .. => .warn
  | .inspecting .. => .debug

def target : Notice → String
  | .skipped _ => "block_engine::model::nodes"
  | .untested .. => "block_engine::condition"
  | .untriggered .. => "block_engine::events"
  | .inert _ => "block_engine::events"
  | .tolerated .. => "block_engine::inspect"
  | .inspecting .. => "blocks"

def message : Notice → String
  | .skipped _ => "skipping malformed entry"
  | .untested d _ => d.message
  | .untriggered d _ => d.message
  | .inert _ => "navigate without handler left inert"
  | .tolerated d _ => d.message
  | .inspecting .. => "inspecting page"

def fields : Notice → List (String × String × Bool)
  | .skipped cause => [("error", cause.message, false)]
  | .untested _ field => [("field", field, false)]
  | .untriggered _ action => [("action", action, false)]
  | .inert destination => [("destination", destination, false)]
  | .tolerated _ key => [("block", key, true)]
  | .inspecting path view => [("path", path, true), ("transform", view, true)]

def line (quoting : Bool) (n : Notice) : String :=
  let field (f : String × String × Bool) : String :=
    " " ++ f.1 ++ "=" ++ if quoting && f.2.2 then Text.quoted f.2.1 else f.2.1
  let message := if quoting then Text.guarded n.message else n.message
  n.level.name ++ " " ++ message ++ String.join (n.fields.map field)

end Notice

end Storefront
