import Storefront.Condition.Basic
import Storefront.Notice
import Storefront.Scope
import Storefront.Text.Blank
import Storefront.Text.Search

namespace Storefront

def Json.strictEq : Json → Json → Bool
  | .number m, .number n => m.toBinary64.same n.toBinary64
  | v, w => v.same w

def strictEq : Option Json → Option Json → Bool
  | none, none => true
  | some v, some w => v.strictEq w
  | _, _ => false

namespace Condition

def hasContent : Option Json → Bool
  | none => false
  | some .null => false
  | some (.array items) => !items.isEmpty
  | some (.string s) => !(Text.trim s.toList).isEmpty
  | some _ => true

def compares (related : Int → Int → Bool) : Option Json → Option Json → Bool
  | some (.number m), some (.number n) => related m.toBinary64.ordinal n.toBinary64.ordinal
  | _, _ => false

def includes : Option Json → Option Json → Bool
  | some (.string s), some (.string needle) => Text.contains needle.toList s.toList
  | some (.array items), some needle => items.any fun item => item.strictEq needle
  | _, _ => false

def check (c : Condition) (scope : Scope) : Except Diagnostic Bool :=
  let actual := scope.resolve c.field
  match c.op with
  | .equals => .ok (strictEq actual c.value)
  | .notEquals => .ok (!strictEq actual c.value)
  | .notEmpty => .ok (hasContent actual)
  | .empty => .ok (!hasContent actual)
  | .greater => .ok (compares (fun a b => b < a) actual c.value)
  | .less => .ok (compares (fun a b => a < b) actual c.value)
  | .greaterOrEqual => .ok (compares (fun a b => b ≤ a) actual c.value)
  | .lessOrEqual => .ok (compares (fun a b => a ≤ b) actual c.value)
  | .contains => .ok (includes actual c.value)
  | .other op => .error (.unknownOperator op c.field)

def holds (c : Condition) (scope : Scope) : Bool :=
  match c.check scope with
  | .ok b => b
  | .error _ => true

def notices (c : Condition) (scope : Scope) : List Notice :=
  match c.check scope with
  | .ok _ => []
  | .error d => [.untested d c.field]

def allHold (cs : List Condition) (scope : Scope) : Bool := cs.all fun c => c.holds scope

def noticesOfAll (scope : Scope) : List Condition → List Notice
  | [] => []
  | c :: rest => c.notices scope ++ if c.holds scope then noticesOfAll scope rest else []

end Condition

end Storefront
