import Mathlib.Data.List.Forall2
import Storefront.Proofs.Plan.Visit

namespace Storefront

theorem Scope.resolve_congr {s t : Scope} (h : s.lookup = t.lookup) : s.resolve = t.resolve := by
  funext path
  simp only [Scope.resolve, h]

theorem Condition.check_congr {s t : Scope} {c : Condition} (h : s.resolve c.field = t.resolve c.field) :
    c.check s = c.check t := by
  simp only [check, h]

theorem Dispatcher.describe_congr {s t : Scope} {d : Dispatcher} {e : Event}
    (h : d.isScoped e.target = true → s.resolve e.target = t.resolve e.target) :
    d.describe e s = d.describe e t := by
  have target : d.resolveTarget e.target s = d.resolveTarget e.target t := by
    rw [resolveTarget, resolveTarget]
    split
    · rename_i isPath
      rw [h isPath]
    · rfl
  simp only [describe, target]

/-- The paths that a block itself reads: those of its bindings and conditions, and the targets of its events
that are paths. -/
def Block.paths (d : Dispatcher) (b : Block) : List String :=
  b.bindings.map Prod.snd ++ b.conditions.map Condition.field
    ++ (b.events.map Event.target).filter d.isScoped

theorem Block.snd_mem_paths {d : Dispatcher} {b : Block} {e : String × String} (h : e ∈ b.bindings) :
    e.2 ∈ b.paths d := by
  simp only [paths, List.mem_append, List.mem_map]
  exact .inl (.inl ⟨e, h, rfl⟩)

namespace Report

def mapKey (f : String → String) (r : Report) : Report := { r with key := f r.key }

end Report

namespace Node

mutual
def mapKeys (f : String → String) : Node → Node
  | ⟨key, kind, visible, iteration, wrapper, style, props, events, children⟩ =>
      ⟨f key, kind, visible, iteration, wrapper, style, props, events, mapKeysOfAll f children⟩

def mapKeysOfAll (f : String → String) : List Node → List Node
  | [] => []
  | n :: rest => n.mapKeys f :: mapKeysOfAll f rest
end

theorem mapKeysOfAll_eq (f : String → String) (ns : List Node) :
    mapKeysOfAll f ns = ns.map (mapKeys f) := by
  induction ns with
  | nil => rfl
  | cons n rest ih => rw [mapKeysOfAll, ih, List.map_cons]

theorem mapKeys_eq (f : String → String) (n : Node) :
    n.mapKeys f = { n with key := f n.key, children := n.children.map (mapKeys f) } := by
  cases n
  rw [mapKeys, mapKeysOfAll_eq]

end Node

namespace Key

/-- A function of keys that takes what is at a key or below it to the same place at another key. -/
structure Moves (f : String → String) (old new : String) : Prop where
  old_ne : old ≠ ""
  new_ne : new ≠ ""
  append : ∀ rest, f (old ++ rest) = new ++ rest

theorem Moves.apply {f : String → String} {old new : String} (h : Moves f old new) : f old = new := by
  simpa using h.append ""

theorem Moves.under {f : String → String} {old new : String} (h : Moves f old new) (own : String) :
    Moves f (Key.under (some old) own) (Key.under (some new) own) where
  old_ne := under_ne_empty h.old_ne own
  new_ne := under_ne_empty h.new_ne own
  append rest := by
    simp only [under_of_ne h.old_ne, under_of_ne h.new_ne, String.append_assoc]
    exact h.append _

end Key

namespace Plan

variable {f : String → String} {s t : Scope} {k k' : String}

theorem gate_congr {cs : List Condition} (h : ∀ c ∈ cs, s.resolve c.field = t.resolve c.field) :
    gate s k cs = gate t k cs := by
  induction cs with
  | nil => rfl
  | cons c rest ih =>
      obtain ⟨first, later⟩ := List.forall_mem_cons.1 h
      simp only [gate, Condition.check_congr first, ih later]

theorem eventsOf_congr {d : Dispatcher} {es : List Event}
    (h : ∀ e ∈ es, d.isScoped e.target = true → s.resolve e.target = t.resolve e.target) :
    eventsOf d s k es = eventsOf d t k es := by
  induction es with
  | nil => rfl
  | cons e rest ih =>
      obtain ⟨first, later⟩ := List.forall_mem_cons.1 h
      simp only [eventsOf, Dispatcher.describe_congr first, ih later]

theorem propsOf_congr {bindings : Dictionary String}
    (h : ∀ e ∈ bindings, s.resolve e.2 = t.resolve e.2) : propsOf s bindings = propsOf t bindings := by
  rw [propsOf, propsOf]
  exact List.map_congr_left fun e he => by rw [h e he]

theorem nodeOf_congr {o : WalkOptions} {i : Option Nat} {b : Block}
    (h : ∀ path ∈ b.paths o.dispatcher, s.resolve path = t.resolve path) :
    nodeOf o s k i b = nodeOf o t k i b := by
  have conditions : gate s k b.conditions = gate t k b.conditions := by
    refine gate_congr fun c hc => h _ ?_
    simp only [Block.paths, List.mem_append, List.mem_map]
    exact .inl (.inr ⟨c, hc, rfl⟩)
  have events : eventsOf o.dispatcher s k b.events = eventsOf o.dispatcher t k b.events := by
    refine eventsOf_congr fun e he isPath => h _ ?_
    simp only [Block.paths, List.mem_append, List.mem_filter, List.mem_map]
    exact .inr ⟨⟨e, he, rfl⟩, isPath⟩
  have props : propsOf s b.bindings = propsOf t b.bindings :=
    propsOf_congr fun e he => h _ (Block.snd_mem_paths he)
  simp only [nodeOf, conditions, events, props]

theorem gate_mapKey (hk : f k = k') (cs : List Condition) :
    gate s k' cs = ((gate s k cs).1, (gate s k cs).2.map (Report.mapKey f)) := by
  induction cs with
  | nil => rfl
  | cons c rest ih =>
      simp only [gate, ih]
      cases c.check s with
      | ok b => rfl
      | error d => simp [Report.mapKey, hk]

theorem eventsOf_mapKey (hk : f k = k') (d : Dispatcher) (es : List Event) :
    eventsOf d s k' es = ((eventsOf d s k es).1, (eventsOf d s k es).2.map (Report.mapKey f)) := by
  induction es with
  | nil => rfl
  | cons e rest ih =>
      simp only [eventsOf, ih]
      cases d.describe e s with
      | ok i => rfl
      | error g => simp [Report.mapKey, hk]

theorem nodeOf_mapKey (hk : f k = k') (o : WalkOptions) (i i' : Option Nat) (b : Block) :
    nodeOf o s k' i' b = ({ (nodeOf o s k i b).1 with key := k', iteration := i' },
      (nodeOf o s k i b).2.map (Report.mapKey f)) := by
  simp only [nodeOf, gate_mapKey hk, eventsOf_mapKey hk]
  split <;> simp

theorem roundsOf_related {R : Round → Round → Prop} {names : RepeaterNames} {b : Block} (hk : f k = k')
    (h : ∀ e ∈ b.bindings, s.resolve e.2 = t.resolve e.2)
    (plain : R { scope := s, key := k, iteration := none } { scope := t, key := k', iteration := none })
    (iteration : ∀ item i,
      R { scope := s.push (iterationLayer names item i), key := Key.under (some k) (toString i),
          iteration := some i }
        { scope := t.push (iterationLayer names item i), key := Key.under (some k') (toString i),
          iteration := some i }) :
    List.Forall₂ R (roundsOf names s k b).1 (roundsOf names t k' b).1 ∧
      (roundsOf names t k' b).2 = (roundsOf names s k b).2.map (Report.mapKey f) := by
  rw [roundsOf, roundsOf]
  split
  · rw [repeaterRounds, repeaterRounds]
    cases hp : b.bindings.get? names.items with
    | none => exact ⟨.nil, rfl⟩
    | some path =>
        dsimp only
        rw [h _ (Dictionary.mem_of_get?_eq_some hp)]
        cases t.resolve path with
        | none => exact ⟨.nil, rfl⟩
        | some v =>
            cases v with
            | array items =>
                refine ⟨?_, rfl⟩
                dsimp only
                rw [iterations_eq, iterations_eq, List.forall₂_map_left_iff, List.forall₂_map_right_iff]
                exact List.forall₂_same.2 fun e _ => iteration e.1 e.2
            | null => exact ⟨.nil, rfl⟩
            | _ => exact ⟨.nil, by simp [Report.mapKey, hk]⟩
  · exact ⟨.cons plain .nil, rfl⟩

structure Round.Mirrors (f : String → String) (r r' : Round) : Prop where
  lookup : r.scope.lookup = r'.scope.lookup
  iteration : r.iteration = r'.iteration
  moves : Key.Moves f r.key r'.key

namespace Visit

structure Mirrors (f : String → String) (v w : Visit) : Prop where
  block : v.block = w.block
  lookup : v.scope.lookup = w.scope.lookup
  moves : Key.Moves f v.key w.key

variable {v w : Visit}

theorem Mirrors.inRound (h : Mirrors f v w) {r r' : Round} (hr : Round.Mirrors f r r') :
    List.Forall₂ (fun a b => Mirrors f a b ∧ a.iteration = b.iteration) (v.inRound r) (w.inRound r') := by
  simp only [Visit.inRound, ← h.block, List.forall₂_map_left_iff, List.forall₂_map_right_iff]
  exact List.forall₂_same.2 fun e _ => ⟨⟨rfl, hr.lookup, hr.moves.under _⟩, hr.iteration⟩

theorem Mirrors.resolve (h : Mirrors f v w) : v.scope.resolve = w.scope.resolve :=
  Scope.resolve_congr h.lookup

theorem Mirrors.nodeOf (o : WalkOptions) (h : Mirrors f v w) :
    nodeOf o w.scope w.key w.iteration w.block =
      ({ v.face o with key := w.key, iteration := w.iteration },
       (nodeOf o v.scope v.key v.iteration v.block).2.map (Report.mapKey f)) := by
  rw [← h.block, nodeOf_congr fun path _ => congrFun h.resolve.symm path,
    nodeOf_mapKey h.moves.apply o v.iteration w.iteration v.block, Visit.face]

theorem Mirrors.shown (h : Mirrors f v w) : v.shown = w.shown := by
  simp only [Visit.shown, Condition.allHold, Condition.holds, h.block,
    Condition.check_congr (congrFun h.resolve _)]

theorem Mirrors.roundsOf (o : WalkOptions) (h : Mirrors f v w) :
    List.Forall₂ (Round.Mirrors f) (v.rounds o) (w.rounds o) ∧
      (roundsOf o.repeater w.scope w.key w.block).2
        = (roundsOf o.repeater v.scope v.key v.block).2.map (Report.mapKey f) := by
  rw [rounds, rounds, ← h.block]
  refine roundsOf_related h.moves.apply (fun e _ => congrFun h.resolve e.2) ⟨h.lookup, rfl, h.moves⟩
    fun item i => ⟨?_, rfl, h.moves.under _⟩
  funext name
  rw [Scope.lookup_push, Scope.lookup_push, h.lookup]

theorem Mirrors.next (o : WalkOptions) (h : Mirrors f v w) :
    List.Forall₂ (fun a b => Mirrors f a b ∧ a.iteration = b.iteration) (v.next o) (w.next o) := by
  simp only [Visit.next, ← h.shown]
  split
  · exact List.rel_flatMap (h.roundsOf o).1 fun _ _ hr => h.inRound hr
  · exact .nil

theorem Mirrors.face (o : WalkOptions) (h : Mirrors f v w) :
    w.face o = { v.face o with key := w.key, iteration := w.iteration } := by
  rw [Visit.face, h.nodeOf o]

theorem Mirrors.own (o : WalkOptions) (h : Mirrors f v w) :
    w.own o = (v.own o).map (Report.mapKey f) := by
  rw [Visit.own, Visit.own, h.nodeOf o, (h.roundsOf o).2, ← h.shown]
  split <;> simp

theorem result_iteration (o : WalkOptions) (v : Visit) (i : Option Nat) :
    Visit.node o { v with iteration := i } = { v.node o with iteration := i } ∧
      Visit.reports o { v with iteration := i } = v.reports o := by
  have here : Plan.nodeOf o v.scope v.key i v.block
      = ({ v.face o with iteration := i }, (Plan.nodeOf o v.scope v.key v.iteration v.block).2) := by
    simp only [Visit.face, Plan.nodeOf]
    split <;> rfl
  have next : Visit.next o { v with iteration := i } = v.next o := rfl
  constructor
  · rw [node_eq, node_eq o v, next, Visit.face, here]
  · rw [reports_eq, reports_eq o v, next, Visit.own, here]
    rfl

theorem Mirrors.result (o : WalkOptions) (h : Mirrors f v w) :
    w.node o = { (v.node o).mapKeys f with iteration := w.iteration } ∧
      w.reports o = (v.reports o).map (Report.mapKey f) := by
  have related := result_of_related (o := o) (f := Node.mapKeys f) (g := some ∘ Report.mapKey f)
    (R := fun a b => Mirrors f a b ∧ a.iteration = b.iteration) (v := { v with iteration := w.iteration })
    ?face ?own (fun h => h.1.next o) ⟨⟨h.block, h.lookup, h.moves⟩, rfl⟩
  case face =>
    rintro a b ⟨h, same⟩ children
    rw [h.face o, Node.mapKeys_eq, key_face, h.moves.apply, ← same, ← iteration_face o a]
  case own =>
    rintro a b ⟨h, -⟩
    rw [h.own o, List.filterMap_eq_map]
  obtain ⟨node, reports⟩ := result_iteration o v w.iteration
  rw [related.1, related.2, node, reports, Node.mapKeys_eq, Node.mapKeys_eq, List.filterMap_eq_map]
  exact ⟨rfl, rfl⟩

end Visit

end Plan

end Storefront
