import Storefront.Proofs.Plan.Visit

namespace Storefront

structure Block.SameShell (b c : Block) : Prop where
  id : b.id = c.id
  type : b.type = c.type
  wrapper : b.wrapper = c.wrapper
  conditions : b.conditions = c.conditions

def Block.withContent (style : Option (Dictionary Json)) (bindings : Dictionary String)
    (events : List Event) (children blocks : List Block) (b : Block) : Block :=
  { b with style, bindings, events, children, blocks }

theorem Block.withContent_sameShell (style : Option (Dictionary Json)) (bindings : Dictionary String)
    (events : List Event) (children blocks : List Block) (b : Block) :
    (b.withContent style bindings events children blocks).SameShell b := ⟨rfl, rfl, rfl, rfl⟩

theorem Block.SameShell.kind {b c : Block} (h : b.SameShell c) : b.kind = c.kind := by
  simp only [Block.kind, h.type]

theorem Block.SameShell.host {b c : Block} (h : b.SameShell c) : b.host = c.host := by
  simp only [Block.host, h.wrapper]

theorem Block.modifyAt_sameShell {f : Block → Block} (hf : ∀ b, (f b).SameShell b) (path : List Nat)
    (b : Block) : (b.modifyAt f path).SameShell b := by
  cases path with
  | nil => exact hf b
  | cons i rest =>
      obtain ⟨children, blocks, h⟩ := b.modifyNested_eq i (modifyAt f rest)
      rw [modifyAt, h]
      exact ⟨rfl, rfl, rfl, rfl⟩

theorem Key.ofBlock_congr {b c : Block} (h : b.SameShell c) (index : Nat) :
    Key.ofBlock b index = Key.ofBlock c index := by
  simp only [Key.ofBlock, Block.explicitId, h.id, h.host, h.type]

theorem Key.siblingsFrom_modify {g : Block → Block} (hg : ∀ b, (g b).SameShell b) (taken : List String)
    (index i : Nat) (bs : List Block) :
    Key.siblingsFrom taken index (bs.modify i g) = Key.siblingsFrom taken index bs := by
  induction bs generalizing taken index i with
  | nil => rw [List.modify_nil]
  | cons b rest ih =>
      cases i with
      | zero => simp only [List.modify_zero_cons, Key.siblingsFrom, Key.ofBlock_congr (hg b)]
      | succ i => simp only [List.modify_succ_cons, Key.siblingsFrom, ih]

theorem map_modify_of_eq {α β : Type} {f : α → β} {g : α → α} {l : List α} {i : Nat}
    (h : ∀ a, l[i]? = some a → f (g a) = f a) : (l.modify i g).map f = l.map f := by
  apply List.ext_getElem?
  intro j
  rw [List.getElem?_map, List.getElem?_map, List.getElem?_modify]
  by_cases hij : i = j
  · subst hij
    cases hi : l[i]? with
    | none => rfl
    | some a => simp [h a hi]
  · simp [hij]

namespace Plan.Visit

variable {o : WalkOptions} {v : Visit} {f : Block → Block}

def withBlock (v : Visit) (b : Block) : Visit := { v with block := b }

theorem shown_withBlock {b : Block} (h : b.SameShell v.block) : (v.withBlock b).shown = v.shown := by
  simp only [shown, withBlock, h.conditions]

theorem inRound_modifyNested {g : Block → Block} (hg : ∀ b, (g b).SameShell b) (i : Nat) (r : Round) :
    (v.withBlock (v.block.modifyNested i g)).inRound r
      = (v.inRound r).modify i fun w => w.withBlock (g w.block) := by
  have siblings : Key.siblings (v.block.nested.modify i g) = Key.siblings v.block.nested :=
    Key.siblingsFrom_modify hg [] 0 i v.block.nested
  apply List.ext_getElem?
  intro j
  simp only [inRound, withBlock, Block.nested_modifyNested, siblings, List.getElem?_map,
    List.getElem?_modify, List.getElem?_zipIdx, List.zip, List.getElem?_zipWith]
  by_cases hij : i = j
  · cases v.block.nested[j]? with
    | none => simp [hij]
    | some c => cases (Key.siblings v.block.nested)[j]? <;> simp [hij]
  · simp [hij]

theorem result_withBlock_of_hidden {b : Block} (h : b.SameShell v.block) (hs : v.shown = false) :
    (v.withBlock b).result o = v.result o := by
  have hs' : (v.withBlock b).shown = false := by rw [shown_withBlock h, hs]
  rw [result_of_hidden o hs', result_of_hidden o hs]
  simp only [withBlock, h.kind, h.host, h.conditions]

theorem result_modifyNested {g : Block → Block} (hg : ∀ b, (g b).SameShell b) {i : Nat}
    (below : ∀ w ∈ v.next o, w.address = v.address ++ [i] →
      (w.withBlock (g w.block)).result o = w.result o) :
    (v.withBlock (v.block.modifyNested i g)).result o = v.result o := by
  obtain ⟨children, blocks, hb⟩ := v.block.modifyNested_eq i g
  have face : (v.withBlock (v.block.modifyNested i g)).face o = v.face o := by rw [hb]; rfl
  have own : (v.withBlock (v.block.modifyNested i g)).own o = v.own o := by rw [hb]; rfl
  have shown : (v.withBlock (v.block.modifyNested i g)).shown = v.shown := by rw [hb]; rfl
  have rounds : (v.withBlock (v.block.modifyNested i g)).rounds o = v.rounds o := by rw [hb]; rfl
  have results : ((v.withBlock (v.block.modifyNested i g)).next o).map (result o)
      = (v.next o).map (result o) := by
    rw [next, next, shown, rounds]
    cases hs : v.shown with
    | false => rfl
    | true =>
        simp only [if_true, List.map_flatMap, inRound_modifyNested hg]
        refine List.flatMap_congr fun r hr => map_modify_of_eq fun w hw => ?_
        obtain ⟨own, -, -, -, -, -, haddress⟩ := of_getElem?_inRound hw
        refine below w ?_ haddress
        rw [next, hs, if_pos rfl]
        exact List.mem_flatMap.2 ⟨r, hr, List.mem_of_getElem? hw⟩
  have nodes (vs : List Visit) : vs.map (node o) = (vs.map (result o)).map Prod.fst := by
    rw [List.map_map]
    rfl
  have reports (vs : List Visit) : vs.flatMap (reports o) = (vs.map (result o)).flatMap Prod.snd := by
    rw [List.flatMap_map]
    rfl
  rw [result_eq, result_eq, face, own, nodes, nodes, reports, reports, results]

theorem result_modifyAt (hf : ∀ b, (f b).SameShell b) {path : List Nat}
    (hidden : ∀ w ∈ v.visits o, w.address = v.address ++ path → w.shown = false) :
    (v.withBlock (v.block.modifyAt f path)).result o = v.result o := by
  induction path generalizing v with
  | nil => exact result_withBlock_of_hidden (hf v.block) (hidden v (mem_visits_self o v) (by simp))
  | cons i rest ih =>
      -- a visit of the `i`-th block, at `rest` below it, is one of `v` at the whole path
      refine result_modifyNested (Block.modifyAt_sameShell hf rest) fun w hw haddress => ih fun u hu hpath => ?_
      refine hidden u (mem_visits_of_mem_next o hw hu) ?_
      rw [hpath, haddress, List.append_assoc]
      rfl

theorem ofPage_modifyAt {page : Json} {root : Block} (hf : ∀ b, (f b).SameShell b) {path : List Nat}
    (hidden : ∀ v ∈ (start page root).visits o, v.address = path → v.shown = false) :
    ofPage o page (root.modifyAt f path) = ofPage o page root := by
  have same : ((start page root).withBlock (root.modifyAt f path)).result o = (start page root).result o :=
    result_modifyAt hf hidden
  have begin : start page (root.modifyAt f path)
      = (start page root).withBlock (root.modifyAt f path) := by
    rw [start, Key.ofBlock_congr (Block.modifyAt_sameShell hf path root)]
    rfl
  have plan (b : Block) : ofPage o page b
      = { root := ((start page b).result o).1, reports := ((start page b).result o).2 } := rfl
  rw [plan, plan, begin, same]

theorem hidden_content_irrelevant (o : WalkOptions) (page : Json) (root : Block) :
    (∀ (path : List Nat) (b : Block), root.at? path = some b →
      (∀ v ∈ (start page root).visits o, v.address = path → Condition.allHold b.conditions v.scope = false) →
      ∀ (style : Option (Dictionary Json)) (bindings : Dictionary String) (events : List Event)
        (children blocks : List Block),
        (root.modifyAt (Block.withContent style bindings events children blocks) path).at? path
          = some { b with style, bindings, events, children, blocks } ∧
        ofPage o page (root.modifyAt (Block.withContent style bindings events children blocks) path)
          = ofPage o page root) ∧
    (∀ (scope : Scope) (key : String) (cs : List Condition),
      (gate scope key cs).1 = Condition.allHold cs scope) ∧
    (∀ v ∈ (start page root).visits o, root.at? v.address = some v.block ∧
      (v.node o).visible = Condition.allHold v.block.conditions v.scope ∧
      ((v.node o).visible = false → (v.node o).style = [] ∧ (v.node o).props = [] ∧
        (v.node o).events = [] ∧ (v.node o).children = [])) := by
  refine ⟨fun path b hb hidden style bindings events children blocks => ⟨Block.at?_modifyAt hb _, ?_⟩,
    gate_fst, fun v hv => ⟨at?_of_mem_visits o hv, visible_node o v, fun hs => ?_⟩⟩
  · refine ofPage_modifyAt (Block.withContent_sameShell style bindings events children blocks)
      fun v hv haddress => ?_
    have found := at?_of_mem_visits o hv
    rw [haddress, hb] at found
    rw [shown, ← Option.some.inj found]
    exact hidden v hv haddress
  · rw [visible_node] at hs
    rw [node, result_of_hidden o hs]
    exact ⟨rfl, rfl, rfl, rfl⟩

def saleList : Block :=
  { type := some "repeater", bindings := [("items", "sales")],
    children := [{ id := some "price" }, { conditions := [{ field := "item.price", op := .notEmpty }] }] }

theorem hidden_content_irrelevant_saleList :
    saleList.at? [1] = some { conditions := [{ field := "item.price", op := .notEmpty }] } ∧
    (∀ v ∈ (start (.object [("sales", .array [.null, .string "free"])]) saleList).visits {},
      v.address = [1] → Condition.allHold [{ field := "item.price", op := .notEmpty }] v.scope = false) ∧
    ofPage {} (.object [("sales", .array [.null, .string "free"])])
        (saleList.modifyAt (Block.withContent none [("items", "sales")] [] [saleList] []) [1])
      = ofPage {} (.object [("sales", .array [.null, .string "free"])]) saleList := by
  have below : ∀ w ∈ (start (.object [("sales", .array [.null, .string "free"])]) saleList).next {},
      (w.next {}).length = 0 ∧ (w.address = [1] →
        Condition.allHold [{ field := "item.price", op := .notEmpty }] w.scope = false) := by decide
  have hidden : ∀ v ∈ (start (.object [("sales", .array [.null, .string "free"])]) saleList).visits {},
      v.address = [1] →
        Condition.allHold [{ field := "item.price", op := .notEmpty }] v.scope = false := by
    intro v hv haddress
    rw [visits_eq] at hv
    rcases List.mem_cons.1 hv with rfl | hv
    · cases haddress
    · obtain ⟨w, hw, hv⟩ := List.mem_flatMap.1 hv
      obtain ⟨leaf, near⟩ := below w hw
      rw [visits_eq, List.length_eq_zero_iff.1 leaf, List.flatMap_nil, List.mem_singleton] at hv
      subst hv
      exact near haddress
  obtain ⟨same, -⟩ :=
    hidden_content_irrelevant {} (.object [("sales", .array [.null, .string "free"])]) saleList
  exact ⟨rfl, hidden, (same [1] _ rfl hidden none [("items", "sales")] [] [saleList] []).2⟩

end Plan.Visit

end Storefront
