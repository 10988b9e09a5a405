import Storefront.Proofs.Block.Fields
import Storefront.Proofs.Tag

namespace Storefront

structure Condition.Canonical (c : Condition) : Prop where
  op : Operator.ofName c.op.name = c.op
  value : ∀ w, c.value = some w → w.Canonical

structure Event.Canonical (e : Event) : Prop where
  action : Action.ofName e.action.name = e.action
  value : ∀ w, e.value = some w → w.Canonical

namespace Block

inductive Canonical : Block → Prop
  | intro {b : Block}
      (style : ∀ entries, b.style = some entries → (Json.object entries).Canonical)
      (bindings : b.bindings.Sorted)
      (conditions : ∀ c ∈ b.conditions, c.Canonical)
      (events : ∀ e ∈ b.events, e.Canonical)
      (nested : ∀ c ∈ b.nested, Canonical c) : Canonical b

end Block

end Storefront
