import Storefront.Condition.Evaluation
import Storefront.Event.Dispatcher
import Storefront.Key
import Storefront.Plan.Basic
import Storefront.Style

namespace Storefront

structure RepeaterNames where
  items : String := "items"
  item : String := "item"
  index : String := "index"
  deriving DecidableEq, Repr

structure WalkOptions where
  dispatcher : Dispatcher := {}
  repeater : RepeaterNames := {}
  deriving DecidableEq, Repr

namespace Plan

def gate (scope : Scope) (key : String) : List Condition → Bool × List Report
  | [] => (true, [])
  | c :: rest =>
      let (passes, reports) := gate scope key rest
      match c.check scope with
      | .ok b => (b && passes, reports)
      | .error d => (passes, ⟨key, d⟩ :: reports)

def propsOf (scope : Scope) (bindings : Dictionary String) : Dictionary Json :=
  bindings.map fun e => (e.1, (scope.resolve e.2).getD .null)

def eventsOf (d : Dispatcher) (scope : Scope) (key : String) :
    List Event → List PlannedEvent × List Report
  | [] => ([], [])
  | e :: rest =>
      let (planned, reports) := eventsOf d scope key rest
      match d.describe e scope with
      | .ok i => (⟨e.action, some i⟩ :: planned, reports)
      | .error g => (⟨e.action, none⟩ :: planned, ⟨key, g⟩ :: reports)

structure Round where
  scope : Scope
  key : String
  iteration : Option Nat

def iterationLayer (names : RepeaterNames) (item : Json) (index : Nat) : Dictionary Json :=
  Dictionary.ofList [(names.item, item), (names.index, .ofNat index)]

def iterations (names : RepeaterNames) (scope : Scope) (key : String) (index : Nat) :
    List Json → List Round
  | [] => []
  | item :: rest =>
      { scope := scope.push (iterationLayer names item index),
        key := Key.under (some key) (toString index),
        iteration := some index } :: iterations names scope key (index + 1) rest

def repeaterRounds (names : RepeaterNames) (scope : Scope) (key : String)
    (bindings : Dictionary String) : List Round × List Report :=
  match bindings.get? names.items with
  | none => ([], [])
  | some path =>
      match scope.resolve path with
      | some (.array items) => (iterations names scope key 0 items, [])
      | none => ([], [])
      | some .null => ([], [])
      | some _ => ([], [⟨key, .notAnArray path⟩])

def roundsOf (names : RepeaterNames) (scope : Scope) (key : String) (b : Block) :
    List Round × List Report :=
  match b.kind with
  | .repeater => repeaterRounds names scope key b.bindings
  | _ => ([{ scope, key, iteration := none }], [])

def nodeOf (options : WalkOptions) (scope : Scope) (key : String) (iteration : Option Nat) (b : Block) :
    Node × List Report :=
  let (visible, gateReports) := gate scope key b.conditions
  let node : Node := { key, kind := b.kind, visible, iteration, wrapper := b.host }
  if visible then
    let (events, eventReports) := eventsOf options.dispatcher scope key b.events
    ({ node with style := Style.translate (b.style.getD []), props := propsOf scope b.bindings, events },
      gateReports ++ eventReports)
  else (node, gateReports)

mutual
def walk (options : WalkOptions) : Block → Scope → String → Option Nat → Node × List Report
  | ⟨id, type, wrapper, style, bindings, conditions, events, children, blocks⟩, scope, key, iteration =>
      let b : Block :=
        { id, type, wrapper, style, bindings, conditions, events, children, blocks }
      let (node, reports) := nodeOf options scope key iteration b
      if node.visible then
        let (rounds, roundReports) := roundsOf options.repeater scope key b
        let locals := Key.siblings b.nested
        let walked := rounds.map fun round =>
          let first := walkAll options children locals round
          let second := walkAll options blocks (locals.drop children.length) round
          (first.1 ++ second.1, first.2 ++ second.2)
        ({ node with children := walked.flatMap (·.1) },
          reports ++ roundReports ++ walked.flatMap (·.2))
      else (node, reports)

def walkAll (options : WalkOptions) : List Block → List String → Round → List Node × List Report
  | b :: rest, own :: owns, round =>
      let (node, reports) :=
        walk options b round.scope (Key.under (some round.key) own) round.iteration
      let (nodes, more) := walkAll options rest owns round
      (node :: nodes, reports ++ more)
  | _, _, _ => ([], [])
end

def ofPage (options : WalkOptions) (page : Json) (root : Block) : Plan :=
  let (node, reports) := walk options root (Scope.root page) (Key.ofBlock root 0) none
  { root := node, reports }

end Plan

end Storefront
