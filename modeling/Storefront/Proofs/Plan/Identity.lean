import Storefront.Proofs.Plan.Reports
import Storefront.Proofs.Plan.Unrolling

namespace Storefront

def Node.at? : Node → List Nat → Option Node
  | n, [] => some n
  | n, i :: rest => n.children[i]?.bind fun c => c.at? rest

theorem getElem?_of_getElem?_flatMap {α β : Type} {f : α → List β} {m : Nat}
    (hf : ∀ a, (f a).length = m) {l : List α} {p : Nat} {b : β} (h : (l.flatMap f)[p]? = some b) :
    ∃ a, l[p / m]? = some a ∧ (f a)[p % m]? = some b := by
  obtain ⟨hp, -⟩ := List.getElem?_eq_some_iff.1 h
  rw [length_flatMap_of_length hf] at hp
  have positive : 0 < m := Nat.pos_of_mul_pos_left (Nat.zero_lt_of_lt hp)
  have hi : p / m < l.length := (Nat.div_lt_iff_lt_mul positive).2 hp
  refine ⟨l[p / m], List.getElem?_eq_getElem hi, ?_⟩
  have place := getElem?_flatMap_of_length hf (List.getElem?_eq_getElem hi) (Nat.mod_lt p positive)
  rw [← place, Nat.div_add_mod', h]

theorem Plan.of_getElem?_iterations {names : RepeaterNames} {scope : Scope} {key : String}
    {items : List Json} {i : Nat} {r : Round} (h : (iterations names scope key 0 items)[i]? = some r) :
    r.key = Key.under (some key) (toString i) ∧ r.iteration = some i := by
  rw [iterations_eq, List.getElem?_map, List.getElem?_zipIdx, Nat.zero_add] at h
  obtain ⟨e, he, rfl⟩ := Option.map_eq_some_iff.1 h
  obtain ⟨item, -, rfl⟩ := Option.map_eq_some_iff.1 he
  exact ⟨rfl, rfl⟩

namespace Plan.Visit

/-- Two visits that show one block in one place, each in its own scope. -/
structure Alike (v w : Visit) : Prop where
  block : v.block = w.block
  key : v.key = w.key
  iteration : v.iteration = w.iteration

variable {o : WalkOptions} {v w a b : Visit} {r r' : Round}

theorem of_getElem?_next {p : Nat} (h : (v.next o)[p]? = some a) :
    ∃ r, (v.rounds o)[p / v.block.nested.length]? = some r ∧
      (v.inRound r)[p % v.block.nested.length]? = some a := by
  cases hs : v.shown with
  | false => simp [next_of_hidden o hs] at h
  | true =>
      rw [next, if_pos hs] at h
      exact getElem?_of_getElem?_flatMap (length_inRound v) h

theorem Alike.round (h : Alike v w) {i : Nat} (hr : (v.rounds o)[i]? = some r)
    (hr' : (w.rounds o)[i]? = some r') : r.key = r'.key ∧ r.iteration = r'.iteration := by
  by_cases hk : v.block.kind = .repeater
  · obtain ⟨items, hitems⟩ := rounds_of_repeater o hk
    obtain ⟨items', hitems'⟩ := rounds_of_repeater o (h.block ▸ hk)
    obtain ⟨key, iteration⟩ := of_getElem?_iterations (hitems ▸ hr)
    obtain ⟨key', iteration'⟩ := of_getElem?_iterations (hitems' ▸ hr')
    exact ⟨by rw [key, key', h.key], by rw [iteration, iteration']⟩
  · rw [rounds_of_plain o hk] at hr
    rw [rounds_of_plain o (h.block ▸ hk)] at hr'
    obtain rfl := List.mem_singleton.1 (List.mem_of_getElem? hr)
    obtain rfl := List.mem_singleton.1 (List.mem_of_getElem? hr')
    exact ⟨h.key, rfl⟩

theorem Alike.next (h : Alike v w) {p : Nat} (ha : (v.next o)[p]? = some a)
    (hb : (w.next o)[p]? = some b) : Alike a b := by
  obtain ⟨r, hr, ha⟩ := of_getElem?_next ha
  obtain ⟨r', hr', hb⟩ := of_getElem?_next hb
  rw [← h.block] at hr' hb
  obtain ⟨key, iteration⟩ := h.round hr hr'
  obtain ⟨own, hblock, hown, -, hkey, hiteration, -⟩ := of_getElem?_inRound ha
  obtain ⟨own', hblock', hown', -, hkey', hiteration', -⟩ := of_getElem?_inRound hb
  rw [← h.block] at hblock' hown'
  obtain rfl := Option.some.inj (hown.symm.trans hown')
  exact ⟨Option.some.inj (hblock.symm.trans hblock'), by rw [hkey, hkey', key],
    by rw [hiteration, hiteration', iteration]⟩

theorem exists_of_at?_node {i : Nat} {rest : List Nat} {n : Node}
    (h : (v.node o).at? (i :: rest) = some n) :
    ∃ u, (v.next o)[i]? = some u ∧ (u.node o).at? rest = some n := by
  rw [Node.at?, children_node, List.getElem?_map] at h
  obtain ⟨c, hc, hn⟩ := Option.bind_eq_some_iff.1 h
  obtain ⟨u, hu, rfl⟩ := Option.map_eq_some_iff.1 hc
  exact ⟨u, hu, hn⟩

theorem Alike.at? (h : Alike v w) {path : List Nat} {n n' : Node} (hn : (v.node o).at? path = some n)
    (hn' : (w.node o).at? path = some n') : ∃ a b, Alike a b ∧ a.node o = n ∧ b.node o = n' := by
  induction path generalizing v w with
  | nil => exact ⟨v, w, h, Option.some.inj hn, Option.some.inj hn'⟩
  | cons i rest ih =>
      obtain ⟨a, ha, hn⟩ := exists_of_at?_node hn
      obtain ⟨b, hb, hn'⟩ := exists_of_at?_node hn'
      exact ih (h.next ha hb) hn hn'

theorem wrapper_node (v : Visit) : (v.node o).wrapper = v.block.host := by
  rw [node_eq, face, nodeOf_eq]
  cases v.shown <;> rfl

theorem node_of_shown (hs : v.shown = true) :
    (v.node o).style = Style.translate (v.block.style.getD []) ∧
      (v.node o).props = propsOf v.scope v.block.bindings := by
  rw [node_eq, face, nodeOf_eq, hs]
  exact ⟨rfl, rfl⟩

theorem names_propsOf (scope : Scope) (bindings : Dictionary String) :
    Dictionary.keys (propsOf scope bindings) = bindings.keys := by
  rw [Dictionary.keys, propsOf, List.map_map]
  rfl

theorem length_children_of_plain (hs : v.shown = true) (hk : v.block.kind ≠ .repeater) :
    (v.node o).children.length = v.block.nested.length := by
  rw [children_node, next_of_plain o hs hk, List.length_map, length_inRound]

theorem identity_independent (o : WalkOptions) (root : Block) (page page' : Json) (path : List Nat)
    (n n' : Node) (h : (ofPage o page root).root.at? path = some n)
    (h' : (ofPage o page' root).root.at? path = some n') :
    n.key = n'.key ∧ n.kind = n'.kind ∧ n.wrapper = n'.wrapper ∧ n.iteration = n'.iteration ∧
    (n.visible = true → n'.visible = true →
      n.style = n'.style ∧ n.props.keys = n'.props.keys ∧
      n.events.map PlannedEvent.action = n'.events.map PlannedEvent.action ∧
      (n.kind ≠ .repeater → n.children.length = n'.children.length)) := by
  have alike : Alike (start page root) (start page' root) := ⟨rfl, rfl, rfl⟩
  obtain ⟨a, b, alike, rfl, rfl⟩ := alike.at? h h'
  simp only [key_node, kind_node, wrapper_node, iteration_node, visible_node, alike.block, true_and]
  refine ⟨alike.key, alike.iteration, fun ha hb => ?_⟩
  obtain ⟨style, props⟩ := node_of_shown (o := o) ha
  obtain ⟨style', props'⟩ := node_of_shown (o := o) hb
  refine ⟨by rw [style, style', alike.block],
    by rw [props, props', names_propsOf, names_propsOf, alike.block],
    by rw [actions_node o ha, actions_node o hb, alike.block], fun hk => ?_⟩
  rw [length_children_of_plain ha (alike.block ▸ hk), length_children_of_plain hb hk, alike.block]

def priceList : Block :=
  { type := some "repeater", bindings := [("items", "prices")],
    children := [{ conditions := [{ field := "item.label", op := .notEmpty }] },
                 { id := some "price", bindings := [("amount", "item.amount")] }] }

def oldPrices : Json := .object [("prices", .array [.null, .object [("amount", .ofNat 5)]])]

def newPrices : Json := .object [("prices", .array [.null, .null, .object [("label", .string "new")]])]

theorem identity_independent_priceList :
    ∃ n n', (ofPage {} oldPrices priceList).root.at? [3] = some n ∧
      (ofPage {} newPrices priceList).root.at? [3] = some n' ∧
      n.key = "repeater-0/1/price" ∧ n.key = n'.key ∧ n.visible = true ∧ n'.visible = true ∧
      n.props = [("amount", .ofNat 5)] ∧ n'.props = [("amount", .null)] ∧ n.props.keys = n'.props.keys := by
  refine ⟨_, _, rfl, rfl, ?_⟩
  obtain ⟨key, -, -, -, visible⟩ :=
    identity_independent {} priceList oldPrices newPrices [3] _ _ rfl rfl
  obtain ⟨-, names, -⟩ := visible rfl rfl
  exact ⟨by decide, key, rfl, rfl, rfl, rfl, names⟩

end Plan.Visit

end Storefront
