import Storefront.Command.Basic
import Storefront.Notice.Filter
import Storefront.Settings.TreeLibrary

namespace Storefront

structure Outcome where
  code : Nat
  output : String := ""
  notices : List Notice := []
  error : Option String := none

namespace Outcome

def failed (message : String) : Outcome := { code := 1, error := some ("Error: " ++ message) }

def usage : String :=
  "Usage: blocks [--config <PATH>] [--list-transforms] <COMMAND>\n\n" ++
  "Commands:\n" ++
  "  inspect <path> [transform] [-d <PATH>]\n" ++
  "  wrapper <descriptor>\n" ++
  "  resolve <path> -d <PATH> [-c <PATH>]\n\n" ++
  "Extra parameters of a transform: --extra-<name> [value]\n"

def ofStop : Command.Stop → Outcome
  | .usage => { code := 2, error := some usage }
  | .help => { code := 0, output := usage }
  | .version => { code := 0, output := "blocks 0.1.0\n" }

end Outcome

namespace Command

def viewList : String :=
  let line (v : View) : String :=
    "  " ++ v.name ++ (if v = View.default then " (default)" else "") ++ "\n"
  "Available transforms:\n\n" ++ String.join (View.all.map line)

def readText (files : Files) (path : String) : Except String String :=
  (files path).mapError fun e => s!"Error reading file '{path}': {e.message}"

def readJson (files : Files) (path : String) : Except String Json := do
  let source ← readText files path
  (Json.parse source.toList).mapError fun e => s!"Invalid JSON in '{path}': {e.message source.toList}"

def readJsonOrEmpty (files : Files) : Option String → Except String Json
  | some path => readJson files path
  | none => .ok (.object [])

def execute (files : Files) (options : WalkOptions) (params : Dictionary String) :
    Command → Except String (String × List Notice)
  | .inspect path view data => do
      let source ← readText files path
      let page ← readJsonOrEmpty files data
      let (output, notices) ← (View.showPage options page source view.name params).mapError fun e =>
        "Execution error: " ++ e.message
      return (output, .inspecting path view.name :: notices)
  | .wrapper descriptor => return ((Wrapper.ofText? (some descriptor)).toJson.pretty ++ "\n", [])
  | .resolve path data context => do
      let page ← readJson files data
      let vars ← readJsonOrEmpty files context
      return (((resolveIn page vars path).getD .null).pretty ++ "\n", [])

end Command

namespace Request

def layers (r : Request) : List Settings.Layer :=
  .optionalFile "blocks.toml" :: (r.config.map Settings.Layer.file).toList

def run (r : Request) (files : Files) : Outcome :=
  if r.listViews then { code := 0, output := Command.viewList }
  else
    match Settings.load files r.layers with
    | .error e => .failed ("Failed to load configuration: " ++ e.message)
    | .ok settings =>
        match r.command with
        | none => .failed "Unknown subcommand. Use --help for usage information."
        | some command =>
            match command.execute files settings.walkOptions r.params with
            | .error message => .failed message
            | .ok (output, notices) =>
                { code := 0, output,
                  notices := notices.filter (Filter.ofText settings.logLevel).shows }

def paths (r : Request) : List String :=
  let settings := "blocks.toml" :: r.config.toList
  let read := match r.command with
    | some (.inspect page _ data) => page :: data.toList
    | some (.resolve _ data context) => data :: context.toList
    | _ => []
  settings ++ settings.filterMap Settings.otherPath? ++ read

end Request

def Outcome.ofArguments (files : Files) (arguments : List String) : Outcome :=
  match Request.ofArguments arguments with
  | .error stop => .ofStop stop
  | .ok r => r.run files

end Storefront
