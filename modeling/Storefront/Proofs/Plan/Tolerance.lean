import Storefront.Proofs.Plan.Reports

namespace Storefront

namespace Block

mutual
def withoutUnknown : Block → Block
  | ⟨id, type, wrapper, style, bindings, conditions, events, children, blocks⟩ =>
      { id, type, wrapper, style, bindings,
        conditions := conditions.filter fun c => c.op.isKnown,
        events := events.filter fun e => e.action.isKnown,
        children := withoutUnknownAll children, blocks := withoutUnknownAll blocks }

def withoutUnknownAll : List Block → List Block
  | [] => []
  | b :: rest => b.withoutUnknown :: withoutUnknownAll rest
end

theorem withoutUnknownAll_eq (bs : List Block) : withoutUnknownAll bs = bs.map withoutUnknown := by
  induction bs with
  | nil => rfl
  | cons b rest ih => rw [withoutUnknownAll, ih, List.map_cons]

theorem withoutUnknown_eq (b : Block) :
    b.withoutUnknown =
      { b with
        conditions := b.conditions.filter fun c => c.op.isKnown,
        events := b.events.filter fun e => e.action.isKnown,
        children := b.children.map withoutUnknown, blocks := b.blocks.map withoutUnknown } := by
  cases b
  rw [withoutUnknown, withoutUnknownAll_eq, withoutUnknownAll_eq]

theorem nested_withoutUnknown (b : Block) : b.withoutUnknown.nested = b.nested.map withoutUnknown := by
  rw [withoutUnknown_eq, nested, nested, List.map_append]

end Block

theorem Key.siblingsFrom_map {f : Block → Block} (h : ∀ b index, Key.ofBlock (f b) index = Key.ofBlock b index)
    (taken : List String) (index : Nat) (bs : List Block) :
    Key.siblingsFrom taken index (bs.map f) = Key.siblingsFrom taken index bs := by
  induction bs generalizing taken index with
  | nil => rfl
  | cons b rest ih => simp only [List.map_cons, Key.siblingsFrom, h, ih]

def Diagnostic.isOfUnknown : Diagnostic → Bool
  | .unknownOperator _ _ => true
  | .unknownAction _ => true
  | _ => false

namespace Node

mutual
def withoutUnknown : Node → Node
  | ⟨key, kind, visible, iteration, wrapper, style, props, events, children⟩ =>
      { key, kind, visible, iteration, wrapper, style, props,
        events := events.filter fun e => e.action.isKnown,
        children := withoutUnknownAll children }

def withoutUnknownAll : List Node → List Node
  | [] => []
  | n :: rest => n.withoutUnknown :: withoutUnknownAll rest
end

theorem withoutUnknownAll_eq (ns : List Node) : withoutUnknownAll ns = ns.map withoutUnknown := by
  induction ns with
  | nil => rfl
  | cons n rest ih => rw [withoutUnknownAll, ih, List.map_cons]

theorem withoutUnknown_eq (n : Node) :
    n.withoutUnknown =
      { n with events := n.events.filter fun e => e.action.isKnown,
               children := n.children.map withoutUnknown } := by
  cases n
  rw [withoutUnknown, withoutUnknownAll_eq]

end Node

def Report.kept (r : Report) : Bool := !r.diagnostic.isOfUnknown

def Plan.withoutUnknown (p : Plan) : Plan where
  root := p.root.withoutUnknown
  reports := p.reports.filter Report.kept

theorem Condition.isKnown_of_check_ok {c : Condition} {scope : Scope} {b : Bool}
    (h : c.check scope = .ok b) : c.op.isKnown = true := by
  obtain ⟨field, op, value⟩ := c
  cases op with
  | other name => cases h
  | _ => rfl

theorem Condition.isKnown_of_check_error {c : Condition} {scope : Scope} {d : Diagnostic}
    (h : c.check scope = .error d) : c.op.isKnown = false ∧ d.isOfUnknown = true := by
  obtain ⟨field, op, value⟩ := c
  cases op with
  | other name =>
      cases h
      exact ⟨by simp [Operator.isKnown, Operator.known], rfl⟩
  | _ => cases h

theorem Event.isKnown_of_describe_ok {d : Dispatcher} {e : Event} {scope : Scope} {i : Invocation}
    (h : d.describe e scope = .ok i) : e.action.isKnown = true := by
  obtain ⟨action, target, value⟩ := e
  cases action with
  | other name => cases h
  | _ => rfl

theorem Event.isOfUnknown_raised (d : Dispatcher) (scope : Scope) (e : Event) :
    (e.raised d scope).isOfUnknown = !e.action.isKnown := by
  obtain ⟨action, target, value⟩ := e
  cases action with
  | other name => simp [raised, Diagnostic.isOfUnknown, Action.isKnown, Action.known]
  | _ => rfl

namespace Plan

theorem gate_known (scope : Scope) (key : String) (cs : List Condition) :
    gate scope key (cs.filter fun c => c.op.isKnown)
      = ((gate scope key cs).1, (gate scope key cs).2.filter Report.kept) := by
  induction cs with
  | nil => rfl
  | cons c rest ih =>
      rw [List.filter_cons]
      cases h : c.check scope with
      | ok b => simp only [Condition.isKnown_of_check_ok h, if_true, gate, h, ih]
      | error d =>
          obtain ⟨unknown, ofUnknown⟩ := Condition.isKnown_of_check_error h
          simp [unknown, gate, h, ih, Report.kept, ofUnknown]

theorem eventsOf_known (d : Dispatcher) (scope : Scope) (key : String) (es : List Event) :
    eventsOf d scope key (es.filter fun e => e.action.isKnown)
      = ((eventsOf d scope key es).1.filter fun e => e.action.isKnown,
         (eventsOf d scope key es).2.filter Report.kept) := by
  induction es with
  | nil => rfl
  | cons e rest ih =>
      rw [List.filter_cons]
      cases h : d.describe e scope with
      | ok i => simp [Event.isKnown_of_describe_ok h, eventsOf, h, ih]
      | error g =>
          have ofUnknown := Event.isOfUnknown_raised d scope e
          rw [Dispatcher.describe_error h] at ofUnknown
          cases hk : e.action.isKnown with
          | true => simp [hk, eventsOf, h, ih, Report.kept, ofUnknown]
          | false => simp [hk, eventsOf, h, ih, Report.kept, ofUnknown]

namespace Visit

def withoutUnknown (v : Visit) : Visit := { v with block := v.block.withoutUnknown }

variable {o : WalkOptions}

theorem ofBlock_withoutUnknown (b : Block) (index : Nat) :
    Key.ofBlock b.withoutUnknown index = Key.ofBlock b index := by
  rw [Block.withoutUnknown_eq]
  rfl

theorem shown_withoutUnknown (v : Visit) : v.withoutUnknown.shown = v.shown := by
  simp only [shown, withoutUnknown, ← gate_fst _ v.key]
  rw [Block.withoutUnknown_eq, gate_known]

theorem inRound_withoutUnknown (v : Visit) (r : Round) :
    v.withoutUnknown.inRound r = (v.inRound r).map withoutUnknown := by
  have siblings : Key.siblings (v.block.nested.map Block.withoutUnknown) = Key.siblings v.block.nested :=
    Key.siblingsFrom_map ofBlock_withoutUnknown [] 0 v.block.nested
  simp only [inRound, withoutUnknown, Block.nested_withoutUnknown, siblings, List.zip_map_left,
    List.zipIdx_map, List.map_map]
  rfl

theorem roundsOf_withoutUnknown (v : Visit) :
    roundsOf o.repeater v.scope v.key v.block.withoutUnknown
      = roundsOf o.repeater v.scope v.key v.block := by
  rw [Block.withoutUnknown_eq]
  rfl

theorem next_withoutUnknown (v : Visit) :
    v.withoutUnknown.next o = (v.next o).map withoutUnknown := by
  have rounds : v.withoutUnknown.rounds o = v.rounds o := congrArg Prod.fst (roundsOf_withoutUnknown v)
  rw [next, next, shown_withoutUnknown, rounds]
  split
  · rw [List.map_flatMap]
    exact List.flatMap_congr fun r _ => inRound_withoutUnknown v r
  · rfl

theorem nodeOf_withoutUnknown (v : Visit) :
    nodeOf o v.scope v.key v.iteration v.block.withoutUnknown
      = ({ v.face o with events := (v.face o).events.filter fun e => e.action.isKnown },
         (nodeOf o v.scope v.key v.iteration v.block).2.filter Report.kept) := by
  rw [Block.withoutUnknown_eq, face]
  simp only [nodeOf, gate_known, eventsOf_known]
  split <;> simp [Block.kind, Block.host]

theorem face_withoutUnknown (v : Visit) (children : List Node) :
    { v.withoutUnknown.face o with children := children.map Node.withoutUnknown }
      = Node.withoutUnknown { v.face o with children } := by
  rw [Node.withoutUnknown_eq]
  simp only [face, withoutUnknown, nodeOf_withoutUnknown]

theorem kept_roundsOf (v : Visit) :
    (roundsOf o.repeater v.scope v.key v.block).2.filter Report.kept
      = (roundsOf o.repeater v.scope v.key v.block).2 := by
  rw [List.filter_eq_self, roundsOf_snd, raisedByItems]
  intro r hr
  split at hr
  · simp only [List.mem_map] at hr
    obtain ⟨d, ⟨path, -, rfl⟩, rfl⟩ := hr
    rfl
  · cases hr

theorem own_withoutUnknown (v : Visit) : v.withoutUnknown.own o = (v.own o).filter Report.kept := by
  have conditions : (nodeOf o v.scope v.key v.iteration v.block.withoutUnknown).2
      = (nodeOf o v.scope v.key v.iteration v.block).2.filter Report.kept := by
    rw [nodeOf_withoutUnknown]
  rw [own, own, shown_withoutUnknown, List.filter_append, ← conditions]
  simp only [withoutUnknown, roundsOf_withoutUnknown]
  split
  · rw [kept_roundsOf]
  · rfl

theorem ofPage_withoutUnknown (o : WalkOptions) (page : Json) (root : Block) :
    ofPage o page root.withoutUnknown = (ofPage o page root).withoutUnknown := by
  have related : (start page root).withoutUnknown.node o = ((start page root).node o).withoutUnknown ∧
      (start page root).withoutUnknown.reports o
        = ((start page root).reports o).filterMap (Option.guard Report.kept) := by
    refine result_of_related (R := fun v w => w = v.withoutUnknown) ?_ ?_ ?_ rfl
    · rintro v _ rfl
      exact face_withoutUnknown v
    · rintro v _ rfl
      rw [own_withoutUnknown, List.filterMap_eq_filter]
    · rintro v _ rfl
      rw [next_withoutUnknown, List.forall₂_map_right_iff]
      exact List.forall₂_same.2 fun _ _ => rfl
  have begin : start page root.withoutUnknown = (start page root).withoutUnknown := by
    rw [start, ofBlock_withoutUnknown]
    rfl
  rw [ofPage_eq, begin, related.1, related.2, List.filterMap_eq_filter]
  rfl

end Visit

end Plan

end Storefront
