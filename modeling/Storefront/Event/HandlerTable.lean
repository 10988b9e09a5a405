import Storefront.Event.Action

namespace Storefront

structure HandlerTable (η : Type) where
  handlers : List (Action × η) := []
  location : Option η := none

namespace HandlerTable

variable {η : Type}

def find? (action : Action) : List (Action × η) → Option η
  | [] => none
  | (a, h) :: rest => if a = action then some h else find? action rest

def get? (t : HandlerTable η) (action : Action) : Option η := find? action t.handlers

def has (t : HandlerTable η) (action : Action) : Bool := (t.get? action).isSome

def register (t : HandlerTable η) (action : Action) (handler : η) : HandlerTable η :=
  { t with handlers := (action, handler) :: t.handlers.filter fun e => e.1 != action }

def setLocation (t : HandlerTable η) (hook : η) : HandlerTable η := { t with location := some hook }

def actions (t : HandlerTable η) : List String :=
  (t.handlers.map fun e => e.1.name).mergeSort fun a b => !(b < a)

def dump (t : HandlerTable η) : String :=
  "HandlerTable \x7b actions: [" ++ ", ".intercalate (t.actions.map Text.quoted)
    ++ "], location: " ++ toString t.location.isSome ++ " \x7d"

theorem find?_filter_ne {action a : Action} (handlers : List (Action × η)) (h : action ≠ a) :
    find? a (handlers.filter fun e => e.1 != action) = find? a handlers := by
  induction handlers with
  | nil => rfl
  | cons e rest ih =>
      obtain ⟨b, k⟩ := e
      by_cases hb : b = action
      · subst hb
        rw [List.filter_cons_of_neg (by simp), ih, find?, if_neg h]
      · rw [List.filter_cons_of_pos (by simpa using hb), find?, find?, ih]

theorem get?_register (t : HandlerTable η) (action a : Action) (handler : η) :
    (t.register action handler).get? a = if action = a then some handler else t.get? a := by
  by_cases h : action = a
  · simp [get?, register, find?, h]
  · simpa [get?, register, find?, h] using find?_filter_ne t.handlers h

end HandlerTable

end Storefront
