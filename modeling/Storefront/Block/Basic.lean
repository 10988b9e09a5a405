import Storefront.Block.Kind
import Storefront.Condition.Basic
import Storefront.Event.Basic
import Storefront.Wrapper

namespace Storefront

structure Block where
  id : Option String := none
  type : Option String := none
  wrapper : Option String := none
  style : Option (Dictionary Json) := none
  bindings : Dictionary String := []
  conditions : List Condition := []
  events : List Event := []
  children : List Block := []
  blocks : List Block := []
  deriving BEq, Repr, Inhabited

namespace Block

def nested (b : Block) : List Block := b.children ++ b.blocks

def explicitId (b : Block) : Option String := b.id.filter fun id => !id.isEmpty

def kind (b : Block) : Kind :=
  match b.type with
  | some type => Kind.ofType type
  | none => .element

def host (b : Block) : Wrapper := Wrapper.ofText? b.wrapper

end Block

end Storefront
