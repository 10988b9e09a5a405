import Storefront.Command.Arguments
import Storefront.View

namespace Storefront

inductive Command where
  | inspect (page : String) (view : View) (data : Option String)
  | wrapper (descriptor : String)
  | resolve (path data : String) (context : Option String)
  deriving DecidableEq, Repr

structure Request where
  command : Option Command := none
  listViews : Bool := false
  config : Option String := none
  params : Dictionary String := []
  deriving DecidableEq, Repr

namespace Command

def listOption : OptionForm := { name := "list-transforms", takesValue := false }

def configOption : OptionForm := { name := "config" }

def dataOption : OptionForm := { name := "data", letter := some 'd' }

def contextOption : OptionForm := { name := "context", letter := some 'c' }

def anyWord (_ : String) : Bool := true

def topForm : Form :=
  { options := [listOption, configOption], commands := ["inspect", "wrapper", "resolve", "help"],
    hasVersion := true }

def inspectForm : Form :=
  { options := [listOption, configOption, dataOption],
    operands := [anyWord, fun word => (View.ofName? word).isSome] }

def wrapperForm : Form := { options := [listOption, configOption], operands := [anyWord] }

def resolveForm : Form :=
  { options := [listOption, configOption, dataOption, contextOption], operands := [anyWord] }

def helpStop : List String → Stop
  | [] => .help
  | [word] => if topForm.commands.contains word then .help else .usage
  | _ => .usage

def ofMatches? (name : String) (m : Matches) : Option Command :=
  match name, m.operands with
  | "inspect", page :: view =>
      some (.inspect page ((view.head?.bind View.ofName?).getD .default) (m.value? "data"))
  | "wrapper", [descriptor] => some (.wrapper descriptor)
  | "resolve", [path] => (m.value? "data").map fun data => .resolve path data (m.value? "context")
  | _, _ => none

def formOf (name : String) : Form :=
  if name = "inspect" then inspectForm
  else if name = "wrapper" then wrapperForm
  else resolveForm

end Command

namespace Request

def ofParts (params : Dictionary String) (top below : Command.Matches) (command : Option Command) : Request :=
  { command, listViews := top.has "list-transforms" || below.has "list-transforms",
    config := (below.value? "config").or (top.value? "config"), params }

def ofArguments (arguments : List String) : Except Command.Stop Request := do
  let (ordinary, params) := Command.splitExtras arguments
  match ← Command.topForm.read {} ordinary with
  | (top, none) => if top.options = [] then .error .usage else return ofParts params top {} none
  | (_, some ("help", rest)) => .error (Command.helpStop rest)
  | (top, some (name, rest)) =>
      match ← (Command.formOf name).read {} rest with
      | (below, _) =>
          match Command.ofMatches? name below with
          | some command => return ofParts params top below (some command)
          | none => .error .usage

end Request

end Storefront
