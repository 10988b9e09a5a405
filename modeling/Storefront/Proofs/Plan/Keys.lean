import Storefront.Proofs.Block.Address
import Storefront.Proofs.Key
import Storefront.Proofs.Plan.Visit

namespace Storefront

/-- A block whose own names bring a slash into a key. -/
def Block.HasSlash (b : Block) : Prop :=
  ∃ name, (b.explicitId = some name ∨ b.host.id = some name ∨ b.type = some name) ∧ '/' ∈ name.toList

theorem Key.slash_notMem_ofBlock {b : Block} (h : ¬ b.HasSlash) (index : Nat) :
    '/' ∉ (Key.ofBlock b index).toList := by
  have clean {name : String} (hn : b.explicitId = some name ∨ b.host.id = some name ∨ b.type = some name) :
      '/' ∉ name.toList := fun hs => h ⟨name, hn, hs⟩
  simp only [Key.ofBlock]
  split
  · rename_i id hid
    rcases Option.or_eq_some_iff.1 hid with he | ⟨-, hw⟩
    · exact clean (.inl he)
    · exact clean (.inr (.inl hw))
  · have type : '/' ∉ ((b.type.filter fun type => !type.isEmpty).getD "block").toList := by
      cases ht : b.type.filter fun type => !type.isEmpty with
      | none => decide
      | some type => exact clean (.inr (.inr (Option.filter_eq_some_iff.1 ht).1))
    simp only [String.toList_append, List.mem_append, not_or]
    exact ⟨⟨type, by decide⟩, Key.slash_notMem_natToString index⟩

theorem Key.siblings_apart {bs : List Block} (h : ∀ b ∈ bs, ¬ b.HasSlash) :
    (Key.siblings bs).Pairwise Key.Apart := by
  have clean : ∀ k ∈ Key.siblings bs, '/' ∉ k.toList :=
    Key.slash_notMem_siblingsFrom [] 0 fun b hb i => Key.slash_notMem_ofBlock (h b hb) i
  exact (Key.siblings_nodup bs).imp_of_mem fun ha hb hne => Key.apart_of_ne hne (clean _ ha) (clean _ hb)

theorem Block.mem_nested_hasSlash {root b c : Block} {path : List Nat} (hb : root.at? path = some b)
    (hc : c ∈ b.nested) (hs : c.HasSlash) : ∃ path c, root.at? path = some c ∧ c.HasSlash := by
  obtain ⟨i, hi⟩ := List.mem_iff_getElem?.1 hc
  exact ⟨path ++ [i], c, by rw [Block.at?_append, hb, Option.bind_some, hi], hs⟩

theorem Node.find?_key {n m : Node} (distinct : (n.nodes.map Node.key).Nodup) (hm : m ∈ n.nodes) :
    n.find? m.key = some m := by
  rw [find?_eq]
  have found : (n.nodes.find? fun k => k.key = m.key).isSome := by
    rw [List.find?_isSome]
    exact ⟨m, hm, by simp⟩
  obtain ⟨k, hk⟩ := Option.isSome_iff_exists.1 found
  have same : k.key = m.key := by simpa using List.find?_some hk
  rw [hk, List.inj_on_of_nodup_map distinct (List.mem_of_find?_eq_some hk) hm same]

namespace Plan.Visit

variable {o : WalkOptions} {v w : Visit}

theorem keys_inRound (v : Visit) (r : Round) :
    (v.inRound r).map (fun w => (w.iteration, w.key))
      = (Key.siblings v.block.nested).map fun own => (r.iteration, Key.under (some r.key) own) := by
  have lengths : (Key.siblings v.block.nested).length ≤ v.block.nested.length :=
    Nat.le_of_eq (Key.length_siblingsFrom [] 0 v.block.nested)
  have owns : (v.block.nested.zip (Key.siblings v.block.nested)).zipIdx.map (fun e => e.1.2)
      = Key.siblings v.block.nested := by
    rw [map_zipIdx_fst Prod.snd, List.map_snd_zip lengths]
  rw [inRound, List.map_map]
  conv => rhs; rw [← owns, List.map_map]
  rfl

theorem keys_next_of_plain (hkey : v.key ≠ "") (hs : v.shown = true) (hk : v.block.kind ≠ .repeater) :
    (v.next o).map (fun w => (w.iteration, w.key))
      = (Key.siblings v.block.nested).map fun own => (none, v.key ++ "/" ++ own) := by
  rw [next_of_plain o hs hk, keys_inRound]
  simp only [Key.under_of_ne hkey]

theorem keys_next_of_repeater (hkey : v.key ≠ "") (hk : v.block.kind = .repeater) :
    ∃ n, (v.next o).map (fun w => (w.iteration, w.key)) = (List.range n).flatMap fun i =>
      (Key.siblings v.block.nested).map fun own => (some i, v.key ++ "/" ++ toString i ++ "/" ++ own) := by
  obtain ⟨items, hi⟩ := rounds_of_repeater o hk
  cases hs : v.shown with
  | false => exact ⟨0, by simp [next, hs]⟩
  | true =>
      refine ⟨items.length, ?_⟩
      rw [List.range_eq_range', ← List.zipIdx_map_snd 0 items]
      simp only [next, hs, if_true, hi, iterations_eq, List.flatMap_map, List.map_flatMap, keys_inRound,
        Key.under_of_ne (Key.under_ne_empty hkey _)]
      simp only [Key.under_of_ne hkey]

-- Used with inequality for the children of one node, and with `Key.Apart` for whole plans.
theorem pairwise_keys_next {R : String → String → Prop}
    (apart : ∀ {k k'}, Key.Apart k k' → R k k')
    (under : ∀ {k k'} parent, R k k' → R (parent ++ "/" ++ k) (parent ++ "/" ++ k'))
    (hkey : v.key ≠ "") (hr : (Key.siblings v.block.nested).Pairwise R) :
    ((v.next o).map key).Pairwise R := by
  have keys : (v.next o).map key = ((v.next o).map fun w => (w.iteration, w.key)).map Prod.snd := by
    rw [List.map_map]
    rfl
  have siblings (parent : String) :
      ((Key.siblings v.block.nested).map fun own => parent ++ "/" ++ own).Pairwise R :=
    List.pairwise_map.2 (hr.imp fun h => under parent h)
  rw [keys]
  by_cases hk : v.block.kind = .repeater
  · obtain ⟨n, hn⟩ := keys_next_of_repeater (o := o) hkey hk
    rw [hn, List.map_flatMap, List.pairwise_flatMap]
    constructor
    · intro i _
      rw [List.map_map]
      exact siblings _
    · refine List.nodup_range.imp fun {i j} hij k hk k' hk' => ?_
      simp only [List.map_map, List.mem_map, Function.comp_apply] at hk hk'
      obtain ⟨own, -, rfl⟩ := hk
      obtain ⟨own', -, rfl⟩ := hk'
      exact apart (((Key.natToString_apart hij).under v.key).below own own')
  · cases hs : v.shown with
    | false => simp [next, hs]
    | true =>
        rw [keys_next_of_plain hkey hs hk, List.map_map]
        exact siblings v.key

theorem children_keys_nodup (hkey : v.key ≠ "") : ((v.node o).children.map Node.key).Nodup := by
  have keys : (v.node o).children.map Node.key = (v.next o).map key := by
    rw [children_node, List.map_map]
    exact List.map_congr_left fun w _ => key_node o w
  rw [keys]
  refine pairwise_keys_next Key.Apart.ne (fun parent h he => h ?_) hkey (Key.siblings_nodup _)
  exact (String.append_right_inj _).1 he

theorem key_of_mem_next (hkey : v.key ≠ "") (hw : w ∈ v.next o) : ∃ t, w.key = v.key ++ "/" ++ t := by
  obtain ⟨-, r, hr, hw⟩ := mem_next hw
  obtain ⟨j, own, -, -, -, hk, -⟩ := mem_inRound hw
  by_cases hrep : v.block.kind = .repeater
  · obtain ⟨-, -, item, i, -, -, -, rfl⟩ := mem_rounds_of_repeater o hrep hr
    refine ⟨toString i ++ "/" ++ own, ?_⟩
    rw [hk, Key.under_of_ne (Key.under_ne_empty hkey _), Key.under_of_ne hkey]
    simp only [String.append_assoc]
  · rw [rounds_of_plain o hrep, List.mem_singleton] at hr
    subst hr
    exact ⟨own, by rw [hk, Key.under_of_ne hkey]⟩

theorem key_of_mem_visits (hkey : v.key ≠ "") (hw : w ∈ v.visits o) :
    ∃ s, w.key = v.key ++ s ∧ Key.Tail s := by
  refine of_mem_visits (P := fun w => ∃ s, w.key = v.key ++ s ∧ Key.Tail s) (fun u w hu hw => ?_)
    ⟨"", by simp, .inl rfl⟩ hw
  obtain ⟨s, hs, hst⟩ := hu
  obtain ⟨t, ht⟩ := key_of_mem_next (hs ▸ Key.append_ne_empty hkey s) hw
  refine ⟨s ++ ("/" ++ t), by rw [ht, hs]; simp only [String.append_assoc], ?_⟩
  rcases hst with rfl | ⟨s, rfl⟩
  · exact .inr ⟨t, by simp⟩
  · exact .inr ⟨s ++ ("/" ++ t), by simp only [String.append_assoc]⟩

theorem key_ne_of_mem_visits (hkey : v.key ≠ "") (hw : w ∈ v.visits o) : w.key ≠ "" := by
  obtain ⟨s, hs, -⟩ := key_of_mem_visits hkey hw
  rw [hs]
  exact Key.append_ne_empty hkey s

theorem key_ne_of_mem_next (hkey : v.key ≠ "") (hw : w ∈ v.next o) : w.key ≠ "" :=
  key_ne_of_mem_visits hkey (mem_visits_of_mem_next o hw (mem_visits_self o w))

theorem disjoint_keys_visits (h : Key.Apart v.key w.key) (hv : v.key ≠ "") (hw : w.key ≠ "") :
    ∀ k ∈ (v.visits o).map key, ∀ k' ∈ (w.visits o).map key, k ≠ k' := by
  intro k hk k' hk'
  obtain ⟨a, ha, rfl⟩ := List.mem_map.1 hk
  obtain ⟨b, hb, rfl⟩ := List.mem_map.1 hk'
  obtain ⟨s, hs, hst⟩ := key_of_mem_visits hv ha
  obtain ⟨t, ht, htt⟩ := key_of_mem_visits hw hb
  rw [hs, ht]
  exact h s t hst htt

theorem key_notMem_below (hkey : v.key ≠ "") : v.key ∉ (v.next o).flatMap fun w => (w.visits o).map key := by
  intro hk
  obtain ⟨w, hw, hk⟩ := List.mem_flatMap.1 hk
  obtain ⟨u, hu, huk⟩ := List.mem_map.1 hk
  obtain ⟨t, ht⟩ := key_of_mem_next hkey hw
  obtain ⟨s, hs, -⟩ := key_of_mem_visits (key_ne_of_mem_next hkey hw) hu
  have hl := congrArg String.length huk
  rw [hs, ht] at hl
  simp only [String.length_append] at hl
  have slash : "/".length = 1 := rfl
  omega

theorem keys_nodup (hkey : v.key ≠ "") (clean : ∀ w ∈ v.visits o, ∀ c ∈ w.block.nested, ¬ c.HasSlash) :
    ((v.visits o).map key).Nodup := by
  induction v using next_induction (o := o) with
  | step v ih =>
      -- two keys below `v` part at the children they come from, whose own keys have no slash to hide that
      have apart : (v.next o).Pairwise fun a b => Key.Apart a.key b.key :=
        List.pairwise_map.1 (pairwise_keys_next id (fun parent h => h.under parent) hkey
          (Key.siblings_apart (clean v (mem_visits_self o v))))
      rw [visits_eq, List.map_cons, List.nodup_cons, List.map_flatMap]
      refine ⟨key_notMem_below hkey, List.pairwise_flatMap.2 ⟨fun w hw => ?_, ?_⟩⟩
      · exact ih w hw (key_ne_of_mem_next hkey hw) fun u hu => clean u (mem_visits_of_mem_next o hw hu)
      · exact apart.imp_of_mem fun ha hb h =>
          disjoint_keys_visits h (key_ne_of_mem_next hkey ha) (key_ne_of_mem_next hkey hb)

theorem children_of_hidden (h : (v.node o).visible = false) : (v.node o).children = [] := by
  rw [visible_node] at h
  rw [node, result_of_hidden o h]

theorem children_keys (hkey : v.key ≠ "") (hvisible : (v.node o).visible = true) :
    (v.block.kind ≠ .repeater → (v.node o).children.map (fun c => (c.iteration, c.key))
      = (Key.siblings v.block.nested).map fun own => (none, (v.node o).key ++ "/" ++ own)) ∧
    (v.block.kind = .repeater → ∃ n, (v.node o).children.map (fun c => (c.iteration, c.key))
      = (List.range n).flatMap fun i => (Key.siblings v.block.nested).map fun own =>
          (some i, (v.node o).key ++ "/" ++ toString i ++ "/" ++ own)) := by
  have keys : (v.node o).children.map (fun c => (c.iteration, c.key))
      = (v.next o).map fun w => (w.iteration, w.key) := by
    rw [children_node, List.map_map]
    refine List.map_congr_left fun w _ => ?_
    rw [Function.comp_apply, key_node, iteration_node]
  rw [keys, key_node]
  exact ⟨keys_next_of_plain hkey (by rw [← visible_node o v, hvisible]), keys_next_of_repeater hkey⟩

theorem keys_identify (o : WalkOptions) (page : Json) (root : Block) :
    (ofPage o page root).root.nodes = ((start page root).visits o).map (node o) ∧
    (∀ v ∈ (start page root).visits o,
      root.at? v.address = some v.block ∧
      ((v.node o).visible = false → (v.node o).children = []) ∧
      ((v.node o).visible = true → v.block.kind ≠ .repeater →
        (v.node o).children.map (fun c => (c.iteration, c.key))
          = (Key.siblings v.block.nested).map fun own => (none, (v.node o).key ++ "/" ++ own)) ∧
      ((v.node o).visible = true → v.block.kind = .repeater →
        ∃ n, (v.node o).children.map (fun c => (c.iteration, c.key))
          = (List.range n).flatMap fun i => (Key.siblings v.block.nested).map fun own =>
              (some i, (v.node o).key ++ "/" ++ toString i ++ "/" ++ own))) ∧
    (∀ n ∈ (ofPage o page root).root.nodes, (n.children.map Node.key).Nodup) ∧
    (((ofPage o page root).root.nodes.map Node.key).Nodup ∨
      ∃ path b, root.at? path = some b ∧ b.HasSlash) ∧
    (((ofPage o page root).root.nodes.map Node.key).Nodup →
      ∀ n ∈ (ofPage o page root).root.nodes, (ofPage o page root).find? n.key = some n) := by
  have start_ne : (start page root).key ≠ "" := Key.ofBlock_ne_empty root 0
  have key_ne (v : Visit) (hv : v ∈ (start page root).visits o) : v.key ≠ "" :=
    key_ne_of_mem_visits start_ne hv
  have nodes : (ofPage o page root).root.nodes = ((start page root).visits o).map (node o) :=
    nodes_node o (start page root)
  have keys : (ofPage o page root).root.nodes.map Node.key = ((start page root).visits o).map key := by
    rw [nodes, List.map_map]
    exact List.map_congr_left fun w _ => key_node o w
  refine ⟨nodes, fun v hv => ?_, fun n hn => ?_, ?_, fun distinct n hn => Node.find?_key distinct hn⟩
  · exact ⟨at?_of_mem_visits o hv, children_of_hidden,
      fun hvisible => (children_keys (key_ne v hv) hvisible).1,
      fun hvisible => (children_keys (key_ne v hv) hvisible).2⟩
  · rw [nodes] at hn
    obtain ⟨v, hv, rfl⟩ := List.mem_map.1 hn
    exact children_keys_nodup (key_ne v hv)
  · by_cases slash : ∃ path b, root.at? path = some b ∧ b.HasSlash
    · exact .inr slash
    · refine .inl ?_
      rw [keys]
      refine keys_nodup start_ne fun w hw c hc hs => slash ?_
      exact Block.mem_nested_hasSlash (at?_of_mem_visits o hw) hc hs

def badgeList : Block :=
  { type := some "repeater", bindings := [("items", "badges")],
    children := [{ id := some "0" }, { wrapper := some "li#0" }] }

theorem keys_identify_badgeList :
    (ofPage {} (.object [("badges", .array [.null, .null])]) badgeList).root.nodes.map Node.key
      = ["repeater-0", "repeater-0/0/0", "repeater-0/0/0~1", "repeater-0/1/0", "repeater-0/1/0~1"] ∧
    ∀ n ∈ (ofPage {} (.object [("badges", .array [.null, .null])]) badgeList).root.nodes,
      (ofPage {} (.object [("badges", .array [.null, .null])]) badgeList).find? n.key = some n := by
  obtain ⟨-, -, -, -, found⟩ :=
    keys_identify {} (.object [("badges", .array [.null, .null])]) badgeList
  exact ⟨by decide, found (by decide)⟩

end Plan.Visit

end Storefront
