import Storefront.Block.Kind
import Storefront.Diagnostic
import Storefront.Event.Invocation
import Storefront.Wrapper

namespace Storefront

structure PlannedEvent where
  action : Action
  invocation : Option Invocation
  deriving BEq, Repr

structure Node where
  key : String
  kind : Kind
  visible : Bool
  iteration : Option Nat := none
  wrapper : Wrapper
  style : Dictionary Json := []
  props : Dictionary Json := []
  events : List PlannedEvent := []
  children : List Node := []
  deriving BEq, Repr

structure Report where
  key : String
  diagnostic : Diagnostic
  deriving DecidableEq, Repr

structure Plan where
  root : Node
  reports : List Report
  deriving BEq, Repr

namespace Node

mutual
def nodes : Node → List Node
  | ⟨key, kind, visible, iteration, wrapper, style, props, events, children⟩ =>
      ⟨key, kind, visible, iteration, wrapper, style, props, events, children⟩ :: nodesOfAll children

def nodesOfAll : List Node → List Node
  | [] => []
  | n :: rest => n.nodes ++ nodesOfAll rest
end

mutual
def count : Node → Nat
  | ⟨_, _, _, _, _, _, _, _, children⟩ => 1 + countAll children

def countAll : List Node → Nat
  | [] => 0
  | n :: rest => n.count + countAll rest
end

mutual
def find? (key : String) : Node → Option Node
  | ⟨k, kind, visible, iteration, wrapper, style, props, events, children⟩ =>
      if k = key then some ⟨k, kind, visible, iteration, wrapper, style, props, events, children⟩
      else findAll? key children

def findAll? (key : String) : List Node → Option Node
  | [] => none
  | n :: rest => (n.find? key).or (findAll? key rest)
end

mutual
theorem length_nodes (n : Node) : n.nodes.length = n.count := by
  cases n with
  | mk key kind visible iteration wrapper style props events children =>
      simp only [nodes, count, List.length_cons, length_nodesOfAll children]
      omega

theorem length_nodesOfAll (ns : List Node) : (nodesOfAll ns).length = countAll ns := by
  cases ns with
  | nil => rfl
  | cons n rest =>
      simp only [nodesOfAll, countAll, List.length_append, length_nodes n, length_nodesOfAll rest]
end

theorem nodesOfAll_eq (ns : List Node) : nodesOfAll ns = ns.flatMap nodes := by
  induction ns with
  | nil => rfl
  | cons n rest ih => rw [nodesOfAll, ih, List.flatMap_cons]

theorem nodes_eq (n : Node) : n.nodes = n :: n.children.flatMap nodes := by
  cases n
  rw [nodes, nodesOfAll_eq]

mutual
theorem find?_eq (key : String) (n : Node) : n.find? key = n.nodes.find? fun m => m.key = key := by
  cases n with
  | mk k kind visible iteration wrapper style props events children =>
      simp only [find?, nodes, List.find?_cons, findAll?_eq key children]
      by_cases h : k = key <;> simp [h]

theorem findAll?_eq (key : String) (ns : List Node) :
    findAll? key ns = (nodesOfAll ns).find? fun m => m.key = key := by
  cases ns with
  | nil => rfl
  | cons n rest =>
      simp only [findAll?, nodesOfAll, List.find?_append, find?_eq key n, findAll?_eq key rest]
end

end Node

namespace Plan

def count (p : Plan) : Nat := p.root.count

def find? (p : Plan) (key : String) : Option Node := p.root.find? key

end Plan

end Storefront
