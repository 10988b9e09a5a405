import Storefront.Proofs.Plan.Visit

namespace Storefront

def Condition.raised? (c : Condition) : Option Diagnostic :=
  match c.op with
  | .other op => some (.unknownOperator op c.field)
  | _ => none

def Event.raised (d : Dispatcher) (scope : Scope) (e : Event) : Diagnostic :=
  match e.action with
  | .other action => .unknownAction action
  | _ => .invalidSlideIndex (d.resolveTarget e.target scope)

def Diagnostic.isOfEvent : Diagnostic → Bool
  | .unknownAction _ => true
  | .invalidSlideIndex _ => true
  | _ => false

def Json.isNullOrArray : Json → Bool
  | .null => true
  | .array _ => true
  | _ => false

theorem Condition.check_error {c : Condition} {scope : Scope} {d : Diagnostic}
    (h : c.check scope = .error d) : c.raised? = some d := by
  obtain ⟨field, op, value⟩ := c
  cases op with
  | other name =>
      simp only [check] at h
      injection h with hd
      rw [← hd, raised?]
  | _ => cases h

theorem Condition.check_ok {c : Condition} {scope : Scope} {b : Bool} (h : c.check scope = .ok b) :
    c.raised? = none := by
  obtain ⟨field, op, value⟩ := c
  cases op with
  | other name => cases h
  | _ => rfl

theorem Dispatcher.describe_error {d : Dispatcher} {e : Event} {scope : Scope} {g : Diagnostic}
    (h : d.describe e scope = .error g) : e.raised d scope = g := by
  unfold describe at h
  split at h
  · rename_i action ha
    injection h with hg
    rw [← hg, Event.raised, ha]
  · rename_i ha
    simp only at h
    split at h
    · cases h
    · injection h with hg
      rw [← hg, Event.raised, ha]
  · cases h

theorem Event.isOfEvent_raised (d : Dispatcher) (scope : Scope) (e : Event) :
    (e.raised d scope).isOfEvent = true := by
  rw [raised]
  split <;> rfl

theorem Condition.isOfEvent_raised {c : Condition} {d : Diagnostic} (h : c.raised? = some d) :
    d.isOfEvent = false := by
  rw [raised?] at h
  split at h
  · injection h with hd
    rw [← hd, Diagnostic.isOfEvent]
    all_goals simp
  · cases h

namespace Plan

theorem gate_snd (scope : Scope) (key : String) (cs : List Condition) :
    (gate scope key cs).2 = (cs.filterMap Condition.raised?).map (Report.mk key) := by
  induction cs with
  | nil => rfl
  | cons c rest ih =>
      rw [gate, List.filterMap_cons]
      cases h : c.check scope with
      | ok b => simp only [Condition.check_ok h, ih]
      | error d => simp only [Condition.check_error h, ih, List.map_cons]

theorem eventsOf_fst (d : Dispatcher) (scope : Scope) (key : String) (es : List Event) :
    (eventsOf d scope key es).1
      = es.map fun e => { action := e.action, invocation := (d.describe e scope).toOption } := by
  induction es with
  | nil => rfl
  | cons e rest ih =>
      rw [eventsOf, List.map_cons, ← ih]
      cases d.describe e scope with
      | ok i => rfl
      | error g => rfl

def raisedOf (d : Dispatcher) (scope : Scope) (es : List Event) (planned : List PlannedEvent) :
    List Diagnostic :=
  (es.zip planned).filterMap fun e =>
    if e.2.invocation.isNone then some (e.1.raised d scope) else none

theorem eventsOf_snd (d : Dispatcher) (scope : Scope) (key : String) (es : List Event) :
    (eventsOf d scope key es).2
      = (raisedOf d scope es (eventsOf d scope key es).1).map (Report.mk key) := by
  induction es with
  | nil => rfl
  | cons e rest ih =>
      rw [eventsOf]
      cases h : d.describe e scope with
      | ok i => simpa [raisedOf] using ih
      | error g =>
          rw [← Dispatcher.describe_error h]
          simpa [raisedOf] using ih

theorem countP_raisedOf (d : Dispatcher) (scope : Scope) {es : List Event} {planned : List PlannedEvent}
    (h : es.length = planned.length) :
    (raisedOf d scope es planned).countP Diagnostic.isOfEvent
      = planned.countP fun e => e.invocation.isNone := by
  induction es generalizing planned with
  | nil =>
      obtain rfl : planned = [] := List.length_eq_zero_iff.1 h.symm
      rfl
  | cons e rest ih =>
      cases planned with
      | nil => cases h
      | cons p planned =>
          have later := ih (Nat.succ.inj h)
          cases hp : p.invocation.isNone with
          | true =>
              simp only [raisedOf, List.zip_cons_cons, List.filterMap_cons, hp, if_true,
                List.countP_cons, Event.isOfEvent_raised] at later ⊢
              rw [later]
          | false =>
              simp only [raisedOf, List.zip_cons_cons, List.filterMap_cons, hp, List.countP_cons] at later ⊢
              exact later

namespace Visit

variable (o : WalkOptions)

def raisedByConditions (v : Visit) : List Diagnostic := v.block.conditions.filterMap Condition.raised?

def raisedByEvents (v : Visit) : List Diagnostic :=
  raisedOf o.dispatcher v.scope v.block.events (v.node o).events

def raisedByItems (v : Visit) : List Diagnostic :=
  if (v.node o).kind = .repeater then
    ((v.block.bindings.get? o.repeater.items).filter fun path =>
      (v.scope.resolve path).any fun items => !items.isNullOrArray).toList.map .notAnArray
  else []

def raised (v : Visit) : List Diagnostic :=
  v.raisedByConditions ++ if (v.node o).visible then v.raisedByEvents o ++ v.raisedByItems o else []

theorem events_node (v : Visit) :
    (v.node o).events = if v.shown then (eventsOf o.dispatcher v.scope v.key v.block.events).1 else [] := by
  rw [node_eq, face, nodeOf_eq]
  cases v.shown <;> rfl

theorem roundsOf_snd (v : Visit) :
    (roundsOf o.repeater v.scope v.key v.block).2 = (v.raisedByItems o).map (Report.mk v.key) := by
  rw [raisedByItems, kind_node, roundsOf]
  split
  · rename_i hk
    rw [if_pos hk, repeaterRounds]
    cases v.block.bindings.get? o.repeater.items with
    | none => rfl
    | some path =>
        cases hp : v.scope.resolve path with
        | none => simp [Option.filter, hp]
        | some items => cases items <;> simp [Option.filter, hp, Json.isNullOrArray]
  · rename_i hk
    rw [if_neg hk]
    rfl

theorem own_eq (v : Visit) : v.own o = (v.raised o).map (Report.mk v.key) := by
  have conditions : (gate v.scope v.key v.block.conditions).2
      = v.raisedByConditions.map (Report.mk v.key) := gate_snd ..
  rw [own, raised, visible_node, nodeOf_eq, roundsOf_snd, List.map_append]
  cases hs : v.shown with
  | true =>
      have events : (eventsOf o.dispatcher v.scope v.key v.block.events).2
          = (v.raisedByEvents o).map (Report.mk v.key) := by
        rw [eventsOf_snd, raisedByEvents, events_node, hs, if_pos rfl]
      simp only [if_true, conditions, events, List.map_append, List.append_assoc]
  | false => simp [conditions]

theorem isOfEvent_raisedByConditions (v : Visit) :
    v.raisedByConditions.countP Diagnostic.isOfEvent = 0 := by
  rw [List.countP_eq_zero]
  intro d hd
  obtain ⟨c, -, hc⟩ := List.mem_filterMap.1 hd
  rw [Condition.isOfEvent_raised hc]
  exact Bool.false_ne_true

theorem isOfEvent_raisedByItems (v : Visit) :
    (v.raisedByItems o).countP Diagnostic.isOfEvent = 0 := by
  rw [List.countP_eq_zero]
  intro d hd
  rw [raisedByItems] at hd
  split at hd
  · obtain ⟨path, -, rfl⟩ := List.mem_map.1 hd
    exact Bool.false_ne_true
  · cases hd

theorem actions_node {v : Visit} (hs : v.shown = true) :
    (v.node o).events.map PlannedEvent.action = v.block.events.map Event.action := by
  rw [events_node, hs, if_pos rfl, eventsOf_fst, List.map_map]
  rfl

theorem countP_raised (v : Visit) :
    (v.raised o).countP Diagnostic.isOfEvent
      = (v.node o).events.countP fun e => e.invocation.isNone := by
  rw [raised, visible_node, List.countP_append, isOfEvent_raisedByConditions, Nat.zero_add]
  cases hs : v.shown with
  | true =>
      have length : v.block.events.length = (v.node o).events.length := by
        simpa using (congrArg List.length (actions_node o hs)).symm
      rw [if_pos rfl, List.countP_append, isOfEvent_raisedByItems, Nat.add_zero, raisedByEvents,
        countP_raisedOf o.dispatcher v.scope length]
  | false =>
      rw [events_node, hs]
      rfl

theorem hidden_alone {v : Visit} (hs : v.shown = false) :
    (v.node o).events = [] ∧ v.visits o = [v] ∧
      v.reports o = v.raisedByConditions.map (Report.mk v.key) := by
  refine ⟨?_, ?_, ?_⟩
  · rw [node, result_of_hidden o hs]
  · rw [visits_eq, next_of_hidden o hs, List.flatMap_nil]
  · rw [Visit.reports, result_of_hidden o hs, gate_snd, raisedByConditions]

theorem reports_exact (o : WalkOptions) (page : Json) (root : Block) :
    (ofPage o page root).root.nodes = ((start page root).visits o).map (node o) ∧
    (ofPage o page root).reports
      = ((start page root).visits o).flatMap (fun v => (v.raised o).map (Report.mk (v.node o).key)) ∧
    (∀ v ∈ (start page root).visits o,
      root.at? v.address = some v.block ∧ (v.node o).kind = v.block.kind ∧
      ((v.node o).visible = true →
        (v.node o).events.map PlannedEvent.action = v.block.events.map Event.action) ∧
      ((v.node o).visible = false →
        (v.node o).events = [] ∧ (v.node o).nodes = [v.node o] ∧
          v.reports o = v.raisedByConditions.map (Report.mk (v.node o).key))) ∧
    ((ofPage o page root).root.nodes.flatMap Node.events).countP (fun e => e.invocation.isNone)
      = (ofPage o page root).reports.countP fun r => r.diagnostic.isOfEvent := by
  have nodes : (ofPage o page root).root.nodes = ((start page root).visits o).map (node o) :=
    nodes_node o (start page root)
  have reports : (ofPage o page root).reports = ((start page root).visits o).flatMap fun v =>
      (v.raised o).map (Report.mk (v.node o).key) := by
    rw [show (ofPage o page root).reports = (start page root).reports o from rfl, reports_eq_flatMap]
    exact List.flatMap_congr fun v _ => by rw [own_eq, key_node]
  refine ⟨nodes, reports, fun v hv => ⟨at?_of_mem_visits o hv, kind_node o v, ?_, ?_⟩, ?_⟩
  · intro hvisible
    rw [visible_node] at hvisible
    exact actions_node o hvisible
  · intro hidden
    rw [visible_node] at hidden
    obtain ⟨events, alone, reported⟩ := hidden_alone o hidden
    refine ⟨events, ?_, ?_⟩
    · rw [nodes_node, alone]
      rfl
    · rw [key_node, reported]
  · rw [nodes, reports, List.flatMap_map, List.countP_flatMap, List.countP_flatMap]
    congr 1
    refine List.map_congr_left fun v _ => ?_
    rw [Function.comp_apply, Function.comp_apply, List.countP_map, ← countP_raised]
    rfl

def brokenList : Block :=
  { children := [
      { type := some "repeater", bindings := [("items", "shop")],
        conditions := [{ field := "shop", op := .other "like" }],
        events := [{ action := .other "fly", target := "" }, { action := .search, target := "shoes" },
                   { action := .sliderGoto, target := "second" }] },
      { conditions := [{ field := "shop", op := .empty }, { field := "sale", op := .other "near" }],
        events := [{ action := .other "fly", target := "" }] }] }

theorem reports_exact_brokenList :
    (ofPage {} (.object [("shop", .string "Acme")]) brokenList).reports
      = [⟨"block-0/repeater-0", .unknownOperator "like" "shop"⟩,
         ⟨"block-0/repeater-0", .unknownAction "fly"⟩,
         ⟨"block-0/repeater-0", .invalidSlideIndex "second"⟩,
         ⟨"block-0/repeater-0", .notAnArray "shop"⟩,
         ⟨"block-0/block-1", .unknownOperator "near" "sale"⟩] ∧
    ((ofPage {} (.object [("shop", .string "Acme")]) brokenList).root.nodes.flatMap Node.events).countP
      (fun e => e.invocation.isNone) = 2 := by
  obtain ⟨-, -, -, count⟩ := reports_exact {} (.object [("shop", .string "Acme")]) brokenList
  exact ⟨by decide, count.trans (by decide)⟩

end Visit

end Plan

end Storefront
