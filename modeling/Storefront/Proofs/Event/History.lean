import Mathlib.Logic.Function.Basic
import Storefront.Proofs.Event.Location

namespace Storefront

inductive Deed (η : Type) where
  | register (table : Nat) (action : Action) (handler : η)
  | setLocation (table : Nat) (hook : η)
  | clone (table copy : Nat)
  | build (logged : Bool) (trigger table : Nat) (d : Dispatcher) (e : Event) (scope : Scope)
  | fire (asFunction : Bool) (trigger : Nat)

namespace Deed

variable {η : Type}

def built? : Deed η → Option Nat
  | .build _ trigger _ _ _ _ => some trigger
  | _ => none

/-- The last handler that a table was given for an action, the last deed coming first. What was done to a
table before it was copied counts for the copy. -/
def lastHandler? (table : Nat) (action : Action) : List (Deed η) → Option η
  | [] => none
  | .register t a handler :: earlier =>
      if t = table ∧ a = action then some handler else lastHandler? table action earlier
  | .clone t copy :: earlier => lastHandler? (if copy = table then t else table) action earlier
  | _ :: earlier => lastHandler? table action earlier

def lastHook? (table : Nat) : List (Deed η) → Option η
  | [] => none
  | .setLocation t hook :: earlier => if t = table then some hook else lastHook? table earlier
  | .clone t copy :: earlier => lastHook? (if copy = table then t else table) earlier
  | _ :: earlier => lastHook? table earlier

/-- The calls that the firing of an invocation should make, when it was built from a table after deeds. -/
inductive Owed [UrlReader] (earlier : List (Deed η)) (table : Nat) (i : Invocation) : List (Call η) → Prop
  | handled {handler : η} (found : lastHandler? table i.action earlier = some handler) :
      Owed earlier table i [.handled handler i]
  | located {hook : η} {url : String} (missing : lastHandler? table i.action earlier = none)
      (navigates : i.action = .navigate) (found : lastHook? table earlier = some hook)
      (target : i.target = .text url) (navigable : isNavigable url = true) :
      Owed earlier table i [.located hook url]
  | nothing (missing : lastHandler? table i.action earlier = none)
      (stays : ¬ ∃ hook url, i.action = .navigate ∧ lastHook? table earlier = some hook ∧
        i.target = .text url ∧ isNavigable url = true) :
      Owed earlier table i []

end Deed

namespace HandlerTable

variable {η : Type}

@[simp] theorem get?_setLocation (t : HandlerTable η) (hook : η) (action : Action) :
    (t.setLocation hook).get? action = t.get? action := rfl

@[simp] theorem location_register (t : HandlerTable η) (action : Action) (handler : η) :
    (t.register action handler).location = t.location := rfl

end HandlerTable

theorem Dispatcher.effectOf_eq_handler_iff [UrlReader] {η : Type} {table : HandlerTable η} {i : Invocation}
    {handler : η} : effectOf table i = .handler handler ↔ table.get? i.action = some handler := by
  unfold effectOf
  cases table.get? i.action with
  | some h => simp
  | none =>
      simp only [reduceCtorEq, iff_false]
      split
      · split <;> simp
      · simp

structure Host (η : Type) where
  tables : Nat → HandlerTable η := fun _ => {}
  triggers : Nat → Option (Trigger η) := fun _ => none

namespace Host

variable {η : Type}

def perform [UrlReader] (host : Host η) : Deed η → Host η
  | .register table action handler =>
      { host with tables :=
          Function.update host.tables table ((host.tables table).register action handler) }
  | .setLocation table hook =>
      { host with tables := Function.update host.tables table ((host.tables table).setLocation hook) }
  | .clone table copy =>
      { host with tables := Function.update host.tables copy (host.tables table) }
  | .build logged trigger table d e scope =>
      let built := if logged then d.build e scope (host.tables table)
        else (d.tryBuild e scope (host.tables table)).toOption
      { host with triggers := Function.update host.triggers trigger built }
  | .fire _ _ => host

def calls (host : Host η) : Deed η → List (Call η)
  | .fire asFunction trigger =>
      match host.triggers trigger with
      | some t => if asFunction then t.toFunction () else t.fire
      | none => []
  | _ => []

theorem calls_fire {trigger : Nat} {t : Trigger η} {host : Host η} (h : host.triggers trigger = some t) (asFunction : Bool) :
    host.calls (.fire asFunction trigger) = t.fire := by
  cases asFunction <;> simp [calls, h, Trigger.toFunction]

theorem fires_of_calls {deed : Deed η} {host : Host η} (h : host.calls deed ≠ []) :
    ∃ asFunction trigger t, deed = .fire asFunction trigger ∧ host.triggers trigger = some t := by
  cases deed with
  | fire asFunction trigger =>
      cases held : host.triggers trigger with
      | none => simp [calls, held] at h
      | some t => exact ⟨asFunction, trigger, t, rfl, held⟩
  | _ => exact absurd rfl h

section Reader

variable [UrlReader]

def after : List (Deed η) → Host η
  | [] => {}
  | deed :: earlier => (after earlier).perform deed

variable {earlier later history : List (Deed η)} {deed : Deed η} {trigger table : Nat} {t : Trigger η}

theorem tables_perform (host : Host η) (deed : Deed η) (table : Nat) :
    (host.perform deed).tables table =
      match deed with
      | .register t action handler =>
          if t = table then (host.tables table).register action handler else host.tables table
      | .setLocation t hook => if t = table then (host.tables table).setLocation hook else host.tables table
      | .clone t copy => host.tables (if copy = table then t else table)
      | _ => host.tables table := by
  cases deed with
  | register t action handler =>
      by_cases h : t = table
      · subst h; simp [perform]
      · simp [perform, h, Function.update_of_ne (Ne.symm h)]
  | setLocation t hook =>
      by_cases h : t = table
      · subst h; simp [perform]
      · simp [perform, h, Function.update_of_ne (Ne.symm h)]
  | clone t copy =>
      by_cases h : copy = table
      · subst h; simp [perform]
      · simp [perform, h, Function.update_of_ne (Ne.symm h)]
  | build logged trigger t d e scope => rfl
  | fire asFunction trigger => rfl

theorem get?_tables_after (history : List (Deed η)) (table : Nat) (action : Action) :
    ((after history).tables table).get? action = Deed.lastHandler? table action history := by
  -- for all tables at once: what a copy holds goes back to the table that it was taken of
  induction history generalizing table with
  | nil => rfl
  | cons deed earlier ih =>
      rw [after, tables_perform]
      cases deed with
      | register t a handler =>
          simp only [Deed.lastHandler?, ← ih]
          by_cases ht : t = table
          · simp [ht, HandlerTable.get?_register]
          · simp [ht]
      | setLocation t hook =>
          simp only [Deed.lastHandler?, ← ih]
          split
          · exact HandlerTable.get?_setLocation ..
          · rfl
      | clone t copy => exact ih _
      | build logged trigger t d e scope => exact ih table
      | fire asFunction trigger => exact ih table

theorem location_tables_after (history : List (Deed η)) (table : Nat) :
    ((after history).tables table).location = Deed.lastHook? table history := by
  induction history generalizing table with
  | nil => rfl
  | cons deed earlier ih =>
      rw [after, tables_perform]
      cases deed with
      | register t a handler =>
          simp only [Deed.lastHook?, ← ih]
          split
          · exact HandlerTable.location_register ..
          · rfl
      | setLocation t hook =>
          simp only [Deed.lastHook?, ← ih]
          split
          · rfl
          · rfl
      | clone t copy => exact ih _
      | build logged trigger t d e scope => exact ih table
      | fire asFunction trigger => exact ih table

theorem triggers_perform_of_ne (host : Host η) (h : deed.built? ≠ some trigger) :
    (host.perform deed).triggers trigger = host.triggers trigger := by
  cases deed with
  | build logged t table d e scope =>
      have ne : trigger ≠ t := fun he => h (by rw [he]; rfl)
      simp [perform, Function.update_of_ne ne]
  | _ => rfl

theorem triggers_after_append (h : ∀ deed ∈ later, deed.built? ≠ some trigger) :
    (after (later ++ earlier)).triggers trigger = (after earlier).triggers trigger := by
  induction later with
  | nil => rfl
  | cons deed later ih =>
      rw [List.cons_append, after, triggers_perform_of_ne _ (h deed (List.mem_cons_self ..))]
      exact ih fun deed hd => h deed (List.mem_cons_of_mem _ hd)

theorem triggers_build (host : Host η) (logged : Bool) (trigger table : Nat) (d : Dispatcher) (e : Event)
    (scope : Scope) :
    (host.perform (.build logged trigger table d e scope)).triggers trigger
      = (d.describe e scope).toOption.map fun i =>
          { invocation := i, effect := Dispatcher.effectOf (host.tables table) i } := by
  simp only [perform, Function.update_self, Dispatcher.build, Dispatcher.tryBuild, ite_self]
  cases d.describe e scope <;> rfl

theorem exists_build_of_triggers (h : (after history).triggers trigger = some t) :
    ∃ later earlier logged table d e scope,
      history = later ++ .build logged trigger table d e scope :: earlier ∧
      ∀ deed ∈ later, deed.built? ≠ some trigger := by
  induction history with
  | nil => cases h
  | cons deed earlier ih =>
      -- the last deed is the build that is looked for, or it left the trigger alone
      by_cases hb : deed.built? = some trigger
      · cases deed with
        | build logged t' table d e scope =>
            obtain rfl : t' = trigger := Option.some.inj hb
            exact ⟨[], earlier, logged, table, d, e, scope, rfl, by simp⟩
        | _ => cases hb
      · rw [after, triggers_perform_of_ne _ hb] at h
        obtain ⟨later, earlier, logged, table, d, e, scope, rfl, untouched⟩ := ih h
        exact ⟨deed :: later, earlier, logged, table, d, e, scope, rfl,
          List.forall_mem_cons.2 ⟨hb, untouched⟩⟩

theorem owed_fire {source : HandlerTable η} {i : Invocation}
    (handlers : source.get? i.action = Deed.lastHandler? table i.action earlier)
    (location : source.location = Deed.lastHook? table earlier) :
    Deed.Owed earlier table i (Trigger.fire { invocation := i, effect := Dispatcher.effectOf source i }) := by
  cases found : source.get? i.action with
  | some handler =>
      rw [Dispatcher.effectOf_eq_handler_iff.2 found]
      exact .handled (handlers ▸ found)
  | none =>
      have missing : Deed.lastHandler? table i.action earlier = none := handlers ▸ found
      cases effect : Dispatcher.effectOf source i with
      | handler handler =>
          rw [Dispatcher.effectOf_eq_handler_iff, found] at effect
          cases effect
      | location hook =>
          obtain ⟨navigates, hook?, navigable⟩ := Dispatcher.effectOf_eq_location effect
          obtain ⟨action, target, value⟩ := i
          cases target with
          | text url =>
              have unhidden : isNavigable url = true := navigable
              show Deed.Owed _ _ _ [.located hook url]
              exact .located missing navigates (location ▸ hook?) rfl unhidden
          | index x => simp [Target.asText?] at navigable
      | noop =>
          refine .nothing missing ?_
          rintro ⟨hook, url, navigates, hook?, target, navigable⟩
          obtain ⟨action, _, value⟩ := i
          subst navigates target
          rw [Dispatcher.effectOf_navigate (location.trans hook?) found navigable] at effect
          cases effect

theorem firing_fixed_by_build :
    (∀ (later earlier : List (Deed η)) (logged : Bool) (trigger table : Nat) (d : Dispatcher) (e : Event)
      (scope : Scope), (∀ deed ∈ later, deed.built? ≠ some trigger) →
      let host := after (later ++ .build logged trigger table d e scope :: earlier)
      ((∃ t, host.triggers trigger = some t) ↔ ∃ i, d.describe e scope = .ok i) ∧
      ∀ t, host.triggers trigger = some t →
        d.describe e scope = .ok t.invocation ∧ t.invocation.action = e.action ∧
        ∀ asFunction, Deed.Owed earlier table t.invocation (host.calls (.fire asFunction trigger)) ∧
          host.perform (.fire asFunction trigger) = host) ∧
    (∀ (history : List (Deed η)) (trigger : Nat) (t : Trigger η),
      (after history).triggers trigger = some t →
      ∃ later earlier logged table d e scope,
        history = later ++ .build logged trigger table d e scope :: earlier ∧
        ∀ deed ∈ later, deed.built? ≠ some trigger) ∧
    (∀ (host : Host η) (deed : Deed η), host.calls deed ≠ [] →
      ∃ asFunction trigger t, deed = .fire asFunction trigger ∧ host.triggers trigger = some t) := by
  refine ⟨fun later earlier logged trigger table d e scope untouched => ?_,
    fun _ _ _ => exists_build_of_triggers, fun _ _ => fires_of_calls⟩
  intro host
  have held : host.triggers trigger = (d.describe e scope).toOption.map fun i =>
      { invocation := i, effect := Dispatcher.effectOf ((after earlier).tables table) i } :=
    (triggers_after_append untouched).trans (triggers_build (after earlier) logged trigger table d e scope)
  cases described : d.describe e scope with
  | error g =>
      have empty : host.triggers trigger = none := by rw [held, described]; rfl
      simp [empty]
  | ok i =>
      have built : host.triggers trigger = some
          { invocation := i, effect := Dispatcher.effectOf ((after earlier).tables table) i } := by
        rw [held, described]
        rfl
      refine ⟨⟨fun _ => ⟨i, rfl⟩, fun _ => ⟨_, built⟩⟩, fun t ht => ?_⟩
      obtain rfl := Option.some.inj (built.symm.trans ht)
      refine ⟨rfl, Dispatcher.describe_action described, fun asFunction => ⟨?_, rfl⟩⟩
      rw [calls_fire built]
      exact owed_fire (get?_tables_after earlier table i.action) (location_tables_after earlier table)

end Reader

def copiedTable : List (Deed String) :=
  [.register 0 .search "suggest", .clone 0 1, .register 0 .search "find", .setLocation 0 "assign"]

def replacedCopy : List (Deed String) := [.fire false 5, .setLocation 1 "open", .clone 0 1]

theorem firing_fixed_by_build_copiedTable :
    (∀ deed ∈ replacedCopy, deed.built? ≠ some 5) ∧
    ∃ t, (after (replacedCopy ++ .build true 5 1 {} { action := .search, target := "shoes" } (.root .null)
        :: copiedTable)).triggers 5 = some t ∧
      ({} : Dispatcher).describe { action := .search, target := "shoes" } (.root .null) = .ok t.invocation ∧
      Deed.Owed copiedTable 1 t.invocation [.handled "find" { action := .search, target := .text "shoes" }] := by
  have untouched : ∀ deed ∈ replacedCopy, deed.built? ≠ some 5 := by decide
  obtain ⟨built, -, -⟩ := firing_fixed_by_build (η := String)
  obtain ⟨-, fires⟩ := built replacedCopy copiedTable true 5 1 {} { action := .search, target := "shoes" }
    (.root .null) untouched
  obtain ⟨described, -, owed⟩ := fires _ rfl
  exact ⟨untouched, _, rfl, described, (owed true).1⟩

end Host

end Storefront
