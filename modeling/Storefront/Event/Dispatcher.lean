import Storefront.Decimal.Numeral
import Storefront.Diagnostic
import Storefront.Event.Invocation
import Storefront.Scope
import Storefront.Text.Blank

namespace Storefront

structure Dispatcher where
  prefixes : List String := ["item.", "product.", "slide."]
  deriving DecidableEq, Repr

namespace Dispatcher

def ofPrefixes (prefixes : List String) : Dispatcher :=
  { prefixes := prefixes.filter fun p => !p.isEmpty }

def isScoped (d : Dispatcher) (target : String) : Bool :=
  d.prefixes.any fun p => p.toList.isPrefixOf target.toList

def resolveTarget (d : Dispatcher) (target : String) (scope : Scope) : String :=
  if d.isScoped target then
    (((scope.resolve target).bind Json.display).filter fun s => !s.isEmpty).getD target
  else target

def slideIndex? (target : String) : Option Binary64 :=
  let s := Text.trim target.toList
  if s.isEmpty then some .zero
  else (Decimal.Numeral.ofText? s).bind Decimal.Numeral.toBinary64?

def describe (d : Dispatcher) (e : Event) (scope : Scope) : Except Diagnostic Invocation :=
  match e.action with
  | .other action => .error (.unknownAction action)
  | .sliderGoto =>
      let target := d.resolveTarget e.target scope
      match slideIndex? target with
      | some x => .ok { action := .sliderGoto, target := .index x, value := e.value }
      | none => .error (.invalidSlideIndex target)
  | action =>
      .ok { action, target := .text (d.resolveTarget e.target scope), value := e.value }

theorem describe_action {d : Dispatcher} {e : Event} {scope : Scope} {i : Invocation}
    (h : d.describe e scope = .ok i) : i.action = e.action := by
  unfold describe at h
  split at h
  · cases h
  · rename_i ha
    simp only at h
    split at h
    · cases h; exact ha.symm
    · cases h
  · cases h; rfl

end Dispatcher

end Storefront
