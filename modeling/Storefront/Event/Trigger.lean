import Storefront.Event.Dispatcher
import Storefront.Event.HandlerTable
import Storefront.Notice
import Storefront.Url.Basic

namespace Storefront

inductive Effect (η : Type) where
  | handler (h : η)
  | location (hook : η)
  | noop
  deriving Repr

inductive Call (η : Type) where
  | handled (h : η) (invocation : Invocation)
  | located (hook : η) (url : String)
  deriving Repr

structure Trigger (η : Type) where
  invocation : Invocation
  effect : Effect η
  deriving Repr

namespace Trigger

variable {η : Type}

def isNoop (t : Trigger η) : Bool :=
  match t.effect with
  | .noop => true
  | _ => false

def fire (t : Trigger η) : List (Call η) :=
  match t.effect with
  | .handler h => [.handled h t.invocation]
  | .location hook => [.located hook t.invocation.target.display]
  | .noop => []

def toFunction (t : Trigger η) : Unit → List (Call η) := fun () => t.fire

def dump (t : Trigger η) : String :=
  let effect := match t.effect with
    | .handler _ => "handler"
    | .location _ => "location"
    | .noop => "noop"
  "Trigger \x7b invocation: " ++ t.invocation.dump ++ ", effect: " ++ Text.quoted effect ++ " \x7d"

end Trigger

namespace Dispatcher

variable {η : Type}

def effectOf [UrlReader] (table : HandlerTable η) (i : Invocation) : Effect η :=
  match table.get? i.action with
  | some h => .handler h
  | none =>
      match i.action, table.location with
      | .navigate, some hook => if i.target.asText?.any isNavigable then .location hook else .noop
      | _, _ => .noop

def tryBuild [UrlReader] (d : Dispatcher) (e : Event) (scope : Scope) (table : HandlerTable η) :
    Except Diagnostic (Trigger η) :=
  (d.describe e scope).map fun i => { invocation := i, effect := effectOf table i }

def tryNotices [UrlReader] (d : Dispatcher) (e : Event) (scope : Scope) (table : HandlerTable η) :
    List Notice :=
  match d.tryBuild e scope table with
  | .ok t =>
      if t.invocation.action = .navigate ∧ t.isNoop then [.inert t.invocation.target.display] else []
  | .error _ => []

def build [UrlReader] (d : Dispatcher) (e : Event) (scope : Scope) (table : HandlerTable η) :
    Option (Trigger η) :=
  (d.tryBuild e scope table).toOption

def notices [UrlReader] (d : Dispatcher) (e : Event) (scope : Scope) (table : HandlerTable η) :
    List Notice :=
  match d.tryBuild e scope table with
  | .ok _ => d.tryNotices e scope table
  | .error diagnostic => [.untriggered diagnostic e.action.name]

end Dispatcher

end Storefront
