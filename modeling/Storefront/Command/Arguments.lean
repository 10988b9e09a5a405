import Storefront.Command.Extras

namespace Storefront.Command

inductive Stop where
  | usage
  | help
  | version
  deriving DecidableEq, Repr

structure OptionForm where
  name : String
  letter : Option Char := none
  takesValue : Bool := true
  deriving DecidableEq, Repr

structure Form where
  options : List OptionForm
  operands : List (String → Bool) := []
  commands : List String := []
  hasVersion : Bool := false

structure Matches where
  options : List (String × String) := []
  operands : List String := []
  deriving DecidableEq, Repr

namespace Matches

def has (m : Matches) (name : String) : Bool := (m.options.lookup name).isSome

def value? (m : Matches) (name : String) : Option String := m.options.lookup name

def addOption (m : Matches) (name value : String) : Except Stop Matches :=
  if m.has name then .error .usage else .ok { m with options := (name, value) :: m.options }

def addOperand (form : Form) (word : String) (m : Matches) : Except Stop Matches :=
  match form.operands[m.operands.length]? with
  | some fits =>
      if fits word then .ok { m with operands := m.operands ++ [word] } else .error .usage
  | none => .error .usage

end Matches

inductive Word where
  | ending
  | option (form : OptionForm) (value : Option String)
  | operand (word : String)
  | stop (s : Stop)
  deriving DecidableEq, Repr

def attached (s : List Char) : Option String :=
  match s with
  | '=' :: value => some (String.ofList value)
  | _ => none

def Word.ofLong (form : Form) (s : List Char) : Word :=
  let name := String.ofList (s.takeWhile (· != '='))
  let value := attached (s.dropWhile (· != '='))
  match form.options.find? fun o => o.name == name with
  | some o => if o.takesValue || value.isNone then .option o value else .stop .usage
  | none =>
      if value.isSome then .stop .usage
      else if name = "help" then .stop .help
      else if name = "version" ∧ form.hasVersion then .stop .version
      else .stop .usage

def Word.ofShort (form : Form) (letter : Char) (s : List Char) : Word :=
  match form.options.find? fun o => o.letter == some letter with
  | some o =>
      let value := (attached s).or (if s.isEmpty then none else some (String.ofList s))
      .option o value
  | none =>
      if letter = 'h' then .stop .help
      else if letter = 'V' ∧ form.hasVersion then .stop .version
      else .stop .usage

def Word.ofArgument (form : Form) (argument : String) : Word :=
  match argument.toList with
  | ['-', '-'] => .ending
  | '-' :: '-' :: s => .ofLong form s
  | '-' :: letter :: s => .ofShort form letter s
  | _ => .operand argument

def isValue (argument : String) : Bool := argument == "-" || !isHyphenated argument

def Form.read (form : Form) (m : Matches) :
    List String → Except Stop (Matches × Option (String × List String))
  | [] => .ok (m, none)
  | argument :: rest =>
      match Word.ofArgument form argument with
      | .stop s => .error s
      | .ending => do return (← rest.foldlM (fun m word => m.addOperand form word) m, none)
      | .operand word =>
          if form.commands.contains word then .ok (m, some (word, rest))
          else do form.read (← m.addOperand form word) rest
      | .option o (some value) => do form.read (← m.addOption o.name value) rest
      | .option o none =>
          if o.takesValue then
            match rest with
            | [] => .error .usage
            | value :: further =>
                if isValue value then do form.read (← m.addOption o.name value) further
                else .error .usage
          else do form.read (← m.addOption o.name "") rest

end Storefront.Command
