import Mathlib.Data.List.Forall2
import Storefront.Plan.Walk
import Storefront.Proofs.Block.Address

namespace Storefront.Plan

theorem map_zipIdx_fst {α β : Type} (f : α → β) (l : List α) :
    (l.zipIdx.map fun e => f e.1) = l.map f := by
  rw [← Function.comp_def f Prod.fst, ← List.map_map, List.zipIdx_map_fst]

theorem gate_fst (scope : Scope) (key : String) (cs : List Condition) :
    (gate scope key cs).1 = Condition.allHold cs scope := by
  induction cs with
  | nil => rfl
  | cons c rest ih =>
      simp only [gate, Condition.allHold, List.all_cons, Condition.holds] at ih ⊢
      rw [ih]
      cases c.check scope <;> simp

theorem iterations_eq (names : RepeaterNames) (scope : Scope) (key : String) (index : Nat)
    (items : List Json) :
    iterations names scope key index items = (items.zipIdx index).map fun e =>
      { scope := scope.push (iterationLayer names e.1 e.2),
        key := Key.under (some key) (toString e.2), iteration := some e.2 } := by
  induction items generalizing index with
  | nil => rfl
  | cons item rest ih => rw [iterations, ih, List.zipIdx_cons, List.map_cons]

/-- A block that a walk looks at, with the scope, key and iteration it has there. The address says where
the block stands in the tree. -/
structure Visit where
  block : Block
  scope : Scope
  key : String
  iteration : Option Nat := none
  address : List Nat := []

namespace Visit

def start (page : Json) (root : Block) : Visit :=
  { block := root, scope := Scope.root page, key := Key.ofBlock root 0 }

def shown (v : Visit) : Bool := Condition.allHold v.block.conditions v.scope

def inRound (v : Visit) (r : Round) : List Visit :=
  (v.block.nested.zip (Key.siblings v.block.nested)).zipIdx.map fun e =>
    { block := e.1.1, scope := r.scope, key := Key.under (some r.key) e.1.2,
      iteration := r.iteration, address := v.address ++ [e.2] }

variable (o : WalkOptions)

def rounds (v : Visit) : List Round := (roundsOf o.repeater v.scope v.key v.block).1

def next (v : Visit) : List Visit := if v.shown then (v.rounds o).flatMap v.inRound else []

def result (v : Visit) : Node × List Report := walk o v.block v.scope v.key v.iteration

def node (v : Visit) : Node := (v.result o).1

def reports (v : Visit) : List Report := (v.result o).2

theorem ofPage_eq (page : Json) (root : Block) :
    ofPage o page root = { root := (start page root).node o, reports := (start page root).reports o } :=
  rfl

def face (v : Visit) : Node := (nodeOf o v.scope v.key v.iteration v.block).1

def own (v : Visit) : List Report :=
  (nodeOf o v.scope v.key v.iteration v.block).2
    ++ if v.shown then (roundsOf o.repeater v.scope v.key v.block).2 else []

theorem nodeOf_eq (v : Visit) :
    nodeOf o v.scope v.key v.iteration v.block =
      let node : Node :=
        { key := v.key, kind := v.block.kind, visible := v.shown, iteration := v.iteration,
          wrapper := v.block.host }
      let conditions := (gate v.scope v.key v.block.conditions).2
      let events := eventsOf o.dispatcher v.scope v.key v.block.events
      if v.shown then
        ({ node with style := Style.translate (v.block.style.getD []),
                     props := propsOf v.scope v.block.bindings, events := events.1 },
          conditions ++ events.2)
      else (node, conditions) := by
  simp only [nodeOf, shown, ← gate_fst v.scope v.key]

theorem face_visible (v : Visit) : (v.face o).visible = v.shown := by
  rw [face, nodeOf_eq]
  cases v.shown <;> rfl

theorem key_face (v : Visit) : (v.face o).key = v.key := by
  rw [face, nodeOf_eq]
  cases v.shown <;> rfl

theorem kind_face (v : Visit) : (v.face o).kind = v.block.kind := by
  rw [face, nodeOf_eq]
  cases v.shown <;> rfl

theorem iteration_face (v : Visit) : (v.face o).iteration = v.iteration := by
  rw [face, nodeOf_eq]
  cases v.shown <;> rfl

theorem children_face (v : Visit) : (v.face o).children = [] := by
  rw [face, nodeOf_eq]
  cases v.shown <;> rfl

theorem walkAll_eq_zip (bs : List Block) (owns : List String) (r : Round) :
    walkAll o bs owns r =
      ((bs.zip owns).map fun e => (walk o e.1 r.scope (Key.under (some r.key) e.2) r.iteration).1,
       (bs.zip owns).flatMap fun e => (walk o e.1 r.scope (Key.under (some r.key) e.2) r.iteration).2) := by
  induction bs generalizing owns with
  | nil => cases owns <;> rfl
  | cons b rest ih =>
      cases owns with
      | nil => rfl
      | cons own owns => simp only [walkAll, ih, List.zip_cons_cons, List.map_cons, List.flatMap_cons]

theorem walkAll_append (as bs : List Block) (owns : List String) (r : Round) :
    walkAll o (as ++ bs) owns r =
      ((walkAll o as owns r).1 ++ (walkAll o bs (owns.drop as.length) r).1,
       (walkAll o as owns r).2 ++ (walkAll o bs (owns.drop as.length) r).2) := by
  induction as generalizing owns with
  | nil => simp [walkAll]
  | cons a rest ih =>
      cases owns with
      | nil => cases bs <;> simp [walkAll]
      | cons own owns => simp [walkAll, ih]

theorem walk_eq (b : Block) (scope : Scope) (key : String) (iteration : Option Nat) :
    walk o b scope key iteration =
      let here := nodeOf o scope key iteration b
      let rounds := roundsOf o.repeater scope key b
      let below := fun r => walkAll o b.nested (Key.siblings b.nested) r
      if here.1.visible then
        ({ here.1 with children := rounds.1.flatMap fun r => (below r).1 },
          here.2 ++ rounds.2 ++ rounds.1.flatMap fun r => (below r).2)
      else here := by
  obtain ⟨id, type, wrapper, style, bindings, conditions, events, children, blocks⟩ := b
  simp only [walk, Block.nested, walkAll_append, List.flatMap_map]

theorem walkAll_inRound (v : Visit) (r : Round) :
    walkAll o v.block.nested (Key.siblings v.block.nested) r =
      ((v.inRound r).map (node o), (v.inRound r).flatMap (reports o)) := by
  rw [walkAll_eq_zip]
  -- the addresses of the visits play no part in their results
  simp only [List.flatMap_def, ← map_zipIdx_fst _ (v.block.nested.zip (Key.siblings v.block.nested))]
  simp only [inRound, List.map_map, Function.comp_def, node, reports, result]

theorem result_eq (v : Visit) :
    v.result o = ({ v.face o with children := (v.next o).map (node o) },
      v.own o ++ (v.next o).flatMap (reports o)) := by
  rw [result, walk_eq]
  have hv : (nodeOf o v.scope v.key v.iteration v.block).1.visible = v.shown := face_visible o v
  simp only [hv, walkAll_inRound, next, own, rounds, face]
  cases hs : v.shown with
  | true => simp [List.map_flatMap, List.flatMap_assoc]
  | false =>
      have hc := children_face o v
      simp only [face] at hc
      generalize nodeOf o v.scope v.key v.iteration v.block = here at hv hc ⊢
      obtain ⟨node, reports⟩ := here
      cases node
      simp_all

theorem node_eq (v : Visit) : v.node o = { v.face o with children := (v.next o).map (node o) } := by
  rw [node, result_eq]

theorem visible_node (v : Visit) : (v.node o).visible = v.shown := by
  rw [node_eq, face_visible]

theorem key_node (v : Visit) : (v.node o).key = v.key := by
  rw [node_eq, key_face]

theorem kind_node (v : Visit) : (v.node o).kind = v.block.kind := by
  rw [node_eq, kind_face]

theorem iteration_node (v : Visit) : (v.node o).iteration = v.iteration := by
  rw [node_eq, iteration_face]

theorem children_node (v : Visit) : (v.node o).children = (v.next o).map (node o) := by
  rw [node_eq]

theorem reports_eq (v : Visit) : v.reports o = v.own o ++ (v.next o).flatMap (reports o) := by
  rw [reports, result_eq]

theorem length_inRound (v : Visit) (r : Round) : (v.inRound r).length = v.block.nested.length := by
  simp [inRound, Key.siblings, Key.length_siblingsFrom]

theorem getElem?_inRound {v : Visit} (r : Round) {j : Nat} {c : Block} {own : String}
    (hc : v.block.nested[j]? = some c) (hown : (Key.siblings v.block.nested)[j]? = some own) :
    (v.inRound r)[j]? = some
      { block := c, scope := r.scope, key := Key.under (some r.key) own,
        iteration := r.iteration, address := v.address ++ [j] } := by
  have hzip : (v.block.nested.zip (Key.siblings v.block.nested))[j]? = some (c, own) :=
    List.getElem?_zip_eq_some.2 ⟨hc, hown⟩
  simp [inRound, List.getElem?_zipIdx, hzip]

theorem rounds_of_plain {v : Visit} (hk : v.block.kind ≠ .repeater) :
    v.rounds o = [{ scope := v.scope, key := v.key, iteration := none }] := by
  rw [rounds, roundsOf]
  split
  · contradiction
  · rfl

theorem rounds_of_repeater {v : Visit} (hk : v.block.kind = .repeater) :
    ∃ items, v.rounds o = iterations o.repeater v.scope v.key 0 items := by
  rw [rounds, roundsOf, hk]
  dsimp only [repeaterRounds]
  split
  · exact ⟨[], rfl⟩
  · split
    · rename_i items _
      exact ⟨items, rfl⟩
    · exact ⟨[], rfl⟩
    · exact ⟨[], rfl⟩
    · exact ⟨[], rfl⟩

theorem mem_rounds_of_repeater {v : Visit} {r : Round} (hk : v.block.kind = .repeater)
    (hr : r ∈ v.rounds o) :
    ∃ path items item i, v.block.bindings.get? o.repeater.items = some path ∧
      v.scope.resolve path = some (.array items) ∧ items[i]? = some item ∧
      r = { scope := v.scope.push (iterationLayer o.repeater item i),
            key := Key.under (some v.key) (toString i), iteration := some i } := by
  rw [rounds, roundsOf, hk] at hr
  dsimp only [repeaterRounds] at hr
  split at hr
  · cases hr
  · rename_i path hp
    split at hr
    · rename_i items hi
      dsimp only at hr
      rw [iterations_eq] at hr
      obtain ⟨e, he, rfl⟩ := List.mem_map.1 hr
      exact ⟨path, items, e.1, e.2, hp, hi, List.mem_zipIdx_iff_getElem?.1 he, rfl⟩
    · cases hr
    · cases hr
    · cases hr

theorem next_of_hidden {v : Visit} (hs : v.shown = false) : v.next o = [] := by
  rw [next, hs]
  rfl

theorem result_of_hidden {v : Visit} (hs : v.shown = false) :
    v.result o =
      ({ key := v.key, kind := v.block.kind, visible := false, iteration := v.iteration,
         wrapper := v.block.host },
       (gate v.scope v.key v.block.conditions).2) := by
  rw [result_eq, face, own, nodeOf_eq, next_of_hidden o hs, hs]
  simp

theorem next_of_plain {v : Visit} (hs : v.shown = true) (hk : v.block.kind ≠ .repeater) :
    v.next o = v.inRound { scope := v.scope, key := v.key, iteration := none } := by
  simp only [next, hs, if_true, rounds_of_plain o hk, List.flatMap_singleton]

theorem next_of_repeater {v : Visit} (hs : v.shown = true) (hk : v.block.kind = .repeater)
    {path : String} {items : List Json} (hp : v.block.bindings.get? o.repeater.items = some path)
    (hi : v.scope.resolve path = some (.array items)) :
    v.next o = items.zipIdx.flatMap fun e => v.inRound
      { scope := v.scope.push (iterationLayer o.repeater e.1 e.2),
        key := Key.under (some v.key) (toString e.2), iteration := some e.2 } := by
  simp only [next, hs, if_true, rounds, roundsOf, hk, repeaterRounds, hp, hi, iterations_eq,
    List.flatMap_map]

theorem of_getElem?_inRound {v w : Visit} {r : Round} {j : Nat} (h : (v.inRound r)[j]? = some w) :
    ∃ own, v.block.nested[j]? = some w.block ∧ (Key.siblings v.block.nested)[j]? = some own ∧
      w.scope = r.scope ∧ w.key = Key.under (some r.key) own ∧ w.iteration = r.iteration ∧
      w.address = v.address ++ [j] := by
  rw [inRound, List.getElem?_map, List.getElem?_zipIdx] at h
  cases hzip : (v.block.nested.zip (Key.siblings v.block.nested))[j]? with
  | none => simp [hzip] at h
  | some e =>
      obtain ⟨hb, hown⟩ := List.getElem?_zip_eq_some.1 hzip
      simp only [hzip, Option.map_some, Nat.zero_add, Option.some.injEq] at h
      subst h
      exact ⟨e.2, hb, hown, rfl, rfl, rfl, rfl⟩

theorem mem_inRound {v w : Visit} {r : Round} (h : w ∈ v.inRound r) :
    ∃ j own, v.block.nested[j]? = some w.block ∧ (Key.siblings v.block.nested)[j]? = some own ∧
      w.scope = r.scope ∧ w.key = Key.under (some r.key) own ∧ w.iteration = r.iteration ∧
      w.address = v.address ++ [j] := by
  obtain ⟨j, hj⟩ := List.mem_iff_getElem?.1 h
  exact ⟨j, of_getElem?_inRound hj⟩

variable {o}

theorem mem_next {v w : Visit} (h : w ∈ v.next o) :
    v.shown = true ∧ ∃ r ∈ v.rounds o, w ∈ v.inRound r := by
  simp only [next] at h
  split at h
  · rename_i hs
    exact ⟨hs, List.mem_flatMap.1 h⟩
  · cases h

theorem mem_nested_of_mem_next {v w : Visit} (h : w ∈ v.next o) : w.block ∈ v.block.nested := by
  obtain ⟨-, r, -, hw⟩ := mem_next h
  obtain ⟨j, own, hb, -⟩ := mem_inRound hw
  exact List.mem_of_getElem? hb

theorem sizeOf_of_mem_nested {b c : Block} (h : c ∈ b.nested) : sizeOf c < sizeOf b := by
  obtain ⟨id, type, wrapper, style, bindings, conditions, events, children, blocks⟩ := b
  simp only [Block.nested, List.mem_append] at h
  rcases h with h | h
  · have := List.sizeOf_lt_of_mem h
    simp only [Block.mk.sizeOf_spec]
    omega
  · have := List.sizeOf_lt_of_mem h
    simp only [Block.mk.sizeOf_spec]
    omega

theorem sizeOf_of_mem_next {v w : Visit} (h : w ∈ v.next o) : sizeOf w.block < sizeOf v.block :=
  sizeOf_of_mem_nested (mem_nested_of_mem_next h)

theorem next_induction {P : Visit → Prop} (step : ∀ v, (∀ w ∈ v.next o, P w) → P v) (v : Visit) :
    P v :=
  step v fun w _ => next_induction step w
termination_by sizeOf v.block
decreasing_by exact sizeOf_of_mem_next ‹_›

variable (o)

def visits (v : Visit) : List Visit :=
  v :: (v.next o).attach.flatMap fun w => visits w.1
termination_by sizeOf v.block
decreasing_by exact sizeOf_of_mem_next w.2

theorem visits_eq (v : Visit) : v.visits o = v :: (v.next o).flatMap (visits o) := by
  rw [visits]
  congr 1
  rw [List.flatMap_subtype (g := visits o) (fun w _ => rfl), List.unattach_attach]

theorem mem_visits_self (v : Visit) : v ∈ v.visits o := by
  rw [visits_eq]
  exact List.mem_cons_self ..

variable {o} in
theorem of_mem_visits {P : Visit → Prop} (step : ∀ v w, P v → w ∈ v.next o → P w) {v w : Visit}
    (hv : P v) (hw : w ∈ v.visits o) : P w := by
  induction v using next_induction (o := o) with
  | step v ih =>
      rw [visits_eq] at hw
      rcases List.mem_cons.1 hw with rfl | hw
      · exact hv
      · obtain ⟨u, hu, hwu⟩ := List.mem_flatMap.1 hw
        exact ih u hu (step v u hv hu) hwu

theorem mem_visits_of_mem_next {v w u : Visit} (hw : w ∈ v.next o) (hu : u ∈ w.visits o) :
    u ∈ v.visits o := by
  rw [visits_eq]
  exact List.mem_cons_of_mem _ (List.mem_flatMap.2 ⟨w, hw, hu⟩)

theorem at?_of_mem_visits {page : Json} {root : Block} {v : Visit} (hv : v ∈ (start page root).visits o) :
    root.at? v.address = some v.block := by
  refine of_mem_visits (P := fun v => root.at? v.address = some v.block) (fun v w hv hw => ?_) rfl hv
  obtain ⟨-, r, -, hw⟩ := mem_next hw
  obtain ⟨j, own, hb, -, -, -, -, haddress⟩ := mem_inRound hw
  rw [haddress, Block.at?_append, hv, Option.bind_some, hb]

theorem nodes_node (v : Visit) : (v.node o).nodes = (v.visits o).map (node o) := by
  induction v using next_induction with
  | step v ih =>
      have below : (v.next o).flatMap (fun w => (w.node o).nodes)
          = (v.next o).flatMap fun w => (w.visits o).map (node o) :=
        List.flatMap_congr fun w hw => ih w hw
      rw [Node.nodes_eq, visits_eq, List.map_cons, List.map_flatMap, ← below, children_node,
        List.flatMap_map]

theorem reports_eq_flatMap (v : Visit) : v.reports o = (v.visits o).flatMap (own o) := by
  induction v using next_induction with
  | step v ih =>
      have below : (v.next o).flatMap (reports o)
          = (v.next o).flatMap fun w => (w.visits o).flatMap (own o) :=
        List.flatMap_congr fun w hw => ih w hw
      rw [reports_eq, visits_eq, List.flatMap_cons, List.flatMap_assoc, below]

variable {o} in
theorem result_of_related {R : Visit → Visit → Prop} {f : Node → Node} {g : Report → Option Report}
    (face : ∀ {v w}, R v w → ∀ children : List Node,
      { w.face o with children := children.map f } = f { v.face o with children })
    (own : ∀ {v w}, R v w → w.own o = (v.own o).filterMap g)
    (next : ∀ {v w}, R v w → List.Forall₂ R (v.next o) (w.next o)) {v w : Visit} (h : R v w) :
    w.node o = f (v.node o) ∧ w.reports o = (v.reports o).filterMap g := by
  induction v using next_induction (o := o) generalizing w with
  | step v ih =>
      have below := (List.forall₂_and_left _ _).2 ⟨fun a ha => @ih a ha, next h⟩
      have nodes : (w.next o).map (node o) = (v.next o).map fun a => f (a.node o) := by
        symm
        rw [← List.forall₂_eq_eq_eq, List.forall₂_map_left_iff, List.forall₂_map_right_iff]
        exact below.imp fun a b hab => (hab.1 hab.2).1.symm
      have reports : (w.next o).map (reports o) = (v.next o).map fun a => (a.reports o).filterMap g := by
        symm
        rw [← List.forall₂_eq_eq_eq, List.forall₂_map_left_iff, List.forall₂_map_right_iff]
        exact below.imp fun a b hab => (hab.1 hab.2).2.symm
      constructor
      · rw [node_eq, nodes, node_eq, ← face h, List.map_map]
        rfl
      · rw [reports_eq, reports_eq, List.flatMap_def, reports, own h, List.filterMap_append,
          List.filterMap_flatMap, List.flatMap_def]

end Visit

end Storefront.Plan
