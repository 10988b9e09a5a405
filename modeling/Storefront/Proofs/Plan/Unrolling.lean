import Storefront.Proofs.Plan.Mirror
import Storefront.Text.Search

namespace Storefront

namespace Key

def moved (old new key : String) : String :=
  match Text.after? old.toList key.toList with
  | some rest => new ++ String.ofList rest
  | none => key

theorem moved_append (old new rest : String) : moved old new (old ++ rest) = new ++ rest := by
  have h : Text.after? old.toList (old ++ rest).toList = some rest.toList :=
    Text.after?_eq_some_iff.2 String.toList_append
  rw [moved, h]
  simp

end Key

section Groups

variable {α β : Type} {f : α → List β} {m : Nat}

theorem length_flatMap_of_length (hf : ∀ a, (f a).length = m) (l : List α) :
    (l.flatMap f).length = l.length * m := by
  induction l with
  | nil => simp
  | cons a rest ih => rw [List.flatMap_cons, List.length_append, hf, ih, List.length_cons, Nat.succ_mul,
      Nat.add_comm]

theorem getElem?_flatMap_of_length (hf : ∀ a, (f a).length = m) {l : List α} {i j : Nat} {a : α}
    (hi : l[i]? = some a) (hj : j < m) : (l.flatMap f)[i * m + j]? = (f a)[j]? := by
  induction l generalizing i with
  | nil => simp at hi
  | cons b rest ih =>
      rw [List.flatMap_cons]
      cases i with
      | zero =>
          obtain rfl : b = a := by simpa using hi
          rw [Nat.zero_mul, Nat.zero_add, List.getElem?_append_left (by rw [hf]; exact hj)]
      | succ i =>
          have later : (i + 1) * m + j = m + (i * m + j) := by rw [Nat.succ_mul]; omega
          rw [List.getElem?_append_right (by rw [hf]; omega), hf, later, Nat.add_sub_cancel_left]
          exact ih (by simpa using hi)

end Groups

namespace Plan

def moved (p : Plan) (old new : String) (iteration : Option Nat) : Plan where
  root := { p.root.mapKeys (Key.moved old new) with iteration }
  reports := p.reports.map (Report.mapKey (Key.moved old new))

/-- The plan of a block on a page of its own, moved to a key and an iteration. -/
def alone (o : WalkOptions) (page : Json) (b : Block) (key : String) (iteration : Option Nat) : Plan :=
  (ofPage o page b).moved (Key.ofBlock b 0) key iteration

def iterationData (names : RepeaterNames) (s : Scope) (item : Json) (index : Nat) : Dictionary Json :=
  (s.flatten.insert names.item item).insert names.index (.ofNat index)

namespace Visit

/-- What every visit of a walk satisfies: it has a key, and its layers have one value for each name. -/
structure Lawful (v : Visit) : Prop where
  key_ne : v.key ≠ ""
  layers_sorted : ∀ layer ∈ v.scope.layers, layer.Sorted

theorem lawful_start (page : Json) (root : Block) : (start page root).Lawful where
  key_ne := Key.ofBlock_ne_empty root 0
  layers_sorted _ h := by simp [start, Scope.root] at h

variable {o : WalkOptions} {v w : Visit}

theorem lookup_flatten (hv : v.Lawful) : (Scope.root (.object v.scope.flatten)).lookup = v.scope.lookup := by
  funext name
  exact Scope.get?_flatten hv.layers_sorted name

theorem lookup_iterationData (hv : v.Lawful) (names : RepeaterNames) (item : Json) (index : Nat) :
    (Scope.root (.object (iterationData names v.scope item index))).lookup
      = (v.scope.push (iterationLayer names item index)).lookup := by
  funext name
  have layer : (iterationLayer names item index).get? name
      = if names.index = name then some (.ofNat index)
        else if names.item = name then some item else none := by
    simp only [iterationLayer, Dictionary.ofList, List.foldl_cons, List.foldl_nil,
      Dictionary.get?_insert, Dictionary.get?_nil]
  rw [Scope.lookup_root, Scope.lookup_push, layer, Json.field?, iterationData, Dictionary.get?_insert,
    Dictionary.get?_insert, Scope.get?_flatten hv.layers_sorted]
  by_cases hindex : names.index = name
  · simp [hindex]
  · by_cases hitem : names.item = name <;> simp [hindex, hitem]

theorem eq_alone (hw : w.key ≠ "") {page : Json} (hp : (Scope.root page).lookup = w.scope.lookup) :
    w.node o = (alone o page w.block w.key w.iteration).root ∧
      w.reports o = (alone o page w.block w.key w.iteration).reports := by
  have mirrors : Mirrors (Key.moved (Key.ofBlock w.block 0) w.key) (start page w.block) w :=
    { block := rfl
      lookup := hp
      moves := ⟨Key.ofBlock_ne_empty w.block 0, hw, Key.moved_append _ _⟩ }
  exact mirrors.result o

theorem lawful_of_mem_rounds (hv : v.Lawful) {r : Round} (hr : r ∈ v.rounds o) :
    r.key ≠ "" ∧ ∀ layer ∈ r.scope.layers, layer.Sorted := by
  by_cases hk : v.block.kind = .repeater
  · obtain ⟨-, -, item, i, -, -, -, rfl⟩ := mem_rounds_of_repeater o hk hr
    refine ⟨Key.under_ne_empty hv.key_ne _, fun layer hl => ?_⟩
    rcases List.mem_cons.1 hl with rfl | hl
    · exact Dictionary.sorted_ofList _
    · exact hv.layers_sorted layer hl
  · rw [rounds_of_plain o hk, List.mem_singleton] at hr
    subst hr
    exact ⟨hv.key_ne, hv.layers_sorted⟩

theorem lawful_of_mem_visits (hv : v.Lawful) (hw : w ∈ v.visits o) : w.Lawful := by
  refine of_mem_visits (P := Lawful) (fun v w hv hw => ?_) hv hw
  obtain ⟨-, r, hr, hw⟩ := mem_next hw
  obtain ⟨j, own, -, -, hscope, hkey, -⟩ := mem_inRound hw
  obtain ⟨hne, hsorted⟩ := lawful_of_mem_rounds hv hr
  exact ⟨hkey ▸ Key.under_ne_empty hne own, hscope ▸ hsorted⟩

theorem inRound_alone {page : Json} {r : Round} (hr : r.key ≠ "")
    (hp : (Scope.root page).lookup = r.scope.lookup) :
    (∀ (j : Nat) (c : Block) (own : String), v.block.nested[j]? = some c →
      (Key.siblings v.block.nested)[j]? = some own →
      ((v.inRound r).map (node o))[j]? = some (alone o page c (r.key ++ "/" ++ own) r.iteration).root) ∧
    (v.inRound r).flatMap (reports o)
      = (v.block.nested.zip (Key.siblings v.block.nested)).flatMap fun e =>
          (alone o page e.1 (r.key ++ "/" ++ e.2) r.iteration).reports := by
  constructor
  · intro j c own hc hown
    rw [List.getElem?_map, getElem?_inRound r hc hown, Option.map_some,
      (eq_alone (Key.under_ne_empty hr own) hp).1, Key.under_of_ne hr]
  · rw [List.flatMap_def, List.flatMap_def, ← map_zipIdx_fst _ (v.block.nested.zip _), inRound,
      List.map_map]
    congr 1
    apply List.map_congr_left
    intro e _
    rw [Function.comp_apply, (eq_alone (Key.under_ne_empty hr e.1.2) hp).2, Key.under_of_ne hr]

theorem repeater_unrolls (hv : v.Lawful) (hs : v.shown = true) (hk : v.block.kind = .repeater)
    {path : String} {items : List Json} (hp : v.block.bindings.get? o.repeater.items = some path)
    (hi : v.scope.resolve path = some (.array items)) :
    (v.node o).children.length = items.length * v.block.nested.length ∧
    (∀ (i j : Nat) (item : Json) (c : Block) (own : String), items[i]? = some item →
      v.block.nested[j]? = some c → (Key.siblings v.block.nested)[j]? = some own →
      (v.node o).children[i * v.block.nested.length + j]?
        = some (alone o (.object (iterationData o.repeater v.scope item i)) c
            (v.key ++ "/" ++ toString i ++ "/" ++ own) (some i)).root) ∧
    v.reports o = v.own o ++ items.zipIdx.flatMap fun e =>
      (v.block.nested.zip (Key.siblings v.block.nested)).flatMap fun b =>
        (alone o (.object (iterationData o.repeater v.scope e.1 e.2)) b.1
          (v.key ++ "/" ++ toString e.2 ++ "/" ++ b.2) (some e.2)).reports := by
  let round (e : Json × Nat) : Round :=
    { scope := v.scope.push (iterationLayer o.repeater e.1 e.2),
      key := Key.under (some v.key) (toString e.2), iteration := some e.2 }
  have next : v.next o = items.zipIdx.flatMap fun e => v.inRound (round e) :=
    next_of_repeater o hs hk hp hi
  have children : (v.node o).children
      = items.zipIdx.flatMap fun e => (v.inRound (round e)).map (node o) := by
    rw [children_node, next, List.map_flatMap]
  have width (e : Json × Nat) : ((v.inRound (round e)).map (node o)).length = v.block.nested.length := by
    rw [List.length_map, length_inRound]
  have key (e : Json × Nat) : (round e).key = v.key ++ "/" ++ toString e.2 := Key.under_of_ne hv.key_ne _
  have below (e : Json × Nat) := inRound_alone (o := o) (v := v) (r := round e)
    (Key.under_ne_empty hv.key_ne _) (lookup_iterationData hv o.repeater e.1 e.2)
  refine ⟨?_, fun i j item c own hitem hc hown => ?_, ?_⟩
  · rw [children, length_flatMap_of_length width, List.length_zipIdx]
  · have hzip : items.zipIdx[i]? = some (item, i) := by simp [List.getElem?_zipIdx, hitem]
    have hj : j < v.block.nested.length := (List.getElem?_eq_some_iff.1 hc).1
    rw [children, getElem?_flatMap_of_length width hzip hj, (below (item, i)).1 j c own hc hown, key]
  · rw [reports_eq, next, List.flatMap_assoc]
    congr 1
    apply List.flatMap_congr
    intro e _
    rw [(below e).2, key]

theorem plain_unrolls (hv : v.Lawful) (hs : v.shown = true) (hk : v.block.kind ≠ .repeater) :
    (v.node o).children.length = v.block.nested.length ∧
    (∀ (j : Nat) (c : Block) (own : String), v.block.nested[j]? = some c →
      (Key.siblings v.block.nested)[j]? = some own →
      (v.node o).children[j]?
        = some (alone o (.object v.scope.flatten) c (v.key ++ "/" ++ own) none).root) ∧
    v.reports o = v.own o ++ (v.block.nested.zip (Key.siblings v.block.nested)).flatMap fun b =>
      (alone o (.object v.scope.flatten) b.1 (v.key ++ "/" ++ b.2) none).reports := by
  have next : v.next o = v.inRound { scope := v.scope, key := v.key, iteration := none } :=
    next_of_plain o hs hk
  have below := inRound_alone (o := o) (v := v)
    (r := { scope := v.scope, key := v.key, iteration := none }) hv.key_ne (lookup_flatten hv)
  refine ⟨?_, fun j c own hc hown => ?_, ?_⟩
  · rw [children_node, next, List.length_map, length_inRound]
  · rw [children_node, next, below.1 j c own hc hown]
  · rw [reports_eq, next, below.2]

theorem walk_unrolls (o : WalkOptions) :
    (∀ page root, (start page root).Lawful ∧
      ofPage o page root = { root := (start page root).node o, reports := (start page root).reports o }) ∧
    ∀ u v : Visit, u.Lawful → v ∈ u.visits o → (v.node o).visible = true →
      v.node o ∈ (u.node o).nodes ∧
      (v.block.kind = .repeater → ∀ (path : String) (items : List Json),
        v.block.bindings.get? o.repeater.items = some path →
        v.scope.resolve path = some (.array items) →
        (v.node o).children.length = items.length * v.block.nested.length ∧
        (∀ (i j : Nat) (item : Json) (c : Block) (own : String), items[i]? = some item →
          v.block.nested[j]? = some c → (Key.siblings v.block.nested)[j]? = some own →
          (v.node o).children[i * v.block.nested.length + j]?
            = some (alone o (.object (iterationData o.repeater v.scope item i)) c
                (v.key ++ "/" ++ toString i ++ "/" ++ own) (some i)).root) ∧
        v.reports o = v.own o ++ items.zipIdx.flatMap fun e =>
          (v.block.nested.zip (Key.siblings v.block.nested)).flatMap fun b =>
            (alone o (.object (iterationData o.repeater v.scope e.1 e.2)) b.1
              (v.key ++ "/" ++ toString e.2 ++ "/" ++ b.2) (some e.2)).reports) ∧
      (v.block.kind ≠ .repeater →
        (v.node o).children.length = v.block.nested.length ∧
        (∀ (j : Nat) (c : Block) (own : String), v.block.nested[j]? = some c →
          (Key.siblings v.block.nested)[j]? = some own →
          (v.node o).children[j]?
            = some (alone o (.object v.scope.flatten) c (v.key ++ "/" ++ own) none).root) ∧
        v.reports o = v.own o ++ (v.block.nested.zip (Key.siblings v.block.nested)).flatMap fun b =>
          (alone o (.object v.scope.flatten) b.1 (v.key ++ "/" ++ b.2) none).reports) := by
  refine ⟨fun page root => ⟨lawful_start page root, ofPage_eq o page root⟩, ?_⟩
  intro u v hu hv hvisible
  have hlawful : v.Lawful := lawful_of_mem_visits hu hv
  have hs : v.shown = true := (visible_node o v).symm.trans hvisible
  refine ⟨?_, fun hk path items hp hi => repeater_unrolls hlawful hs hk hp hi,
    fun hk => plain_unrolls hlawful hs hk⟩
  rw [nodes_node]
  exact List.mem_map_of_mem hv

def tagList : Visit where
  block := { type := some "repeater", bindings := [("items", "item.tags")],
             children := [{ id := some "tag", bindings := [("text", "item"), ("shop", "shop")] }] }
  scope := { page := .object [("item", .null), ("shop", .string "Acme")],
             layers := [[("index", .ofNat 4), ("item", .object [("tags", .array [.null, .string "new"])])]] }
  key := "list/4/repeater-0"
  iteration := some 4

theorem walk_unrolls_tagList :
    tagList.Lawful ∧ tagList ∈ tagList.visits {} ∧ (tagList.node {}).visible = true ∧
      tagList.block.kind = .repeater ∧
      tagList.block.bindings.get? "items" = some "item.tags" ∧
      tagList.scope.resolve "item.tags" = some (.array [.null, .string "new"]) ∧
      (tagList.node {}).children.length = 2 ∧
      (tagList.node {}).children[1]? = some (alone {}
        (.object [("index", .ofNat 1), ("item", .string "new"), ("shop", .string "Acme")])
        { id := some "tag", bindings := [("text", "item"), ("shop", "shop")] }
        "list/4/repeater-0/1/tag" (some 1)).root := by
  have lawful : tagList.Lawful :=
    { key_ne := by decide
      layers_sorted := by
        intro layer h
        obtain rfl := List.mem_singleton.1 h
        show List.Pairwise _ _
        decide }
  have visited : tagList ∈ tagList.visits {} := mem_visits_self {} tagList
  have unrolled := ((walk_unrolls {}).2 tagList tagList lawful visited rfl).2.1 rfl "item.tags"
    [.null, .string "new"] rfl rfl
  exact ⟨lawful, visited, rfl, rfl, rfl, rfl, unrolled.1, unrolled.2.1 1 0 _ _ "tag" rfl rfl rfl⟩

end Visit

end Plan

end Storefront
