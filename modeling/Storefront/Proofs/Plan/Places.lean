import Mathlib.Data.List.Forall2
import Storefront.Plan.Drawing
import Storefront.Proofs.Plan.Identity

namespace Storefront.Node

variable {m n n' c : Node} {ns ns' : List Node} {address : List Nat} {d : Nat}

section Order

mutual
def placed : Node → List (List Nat × Node)
  | ⟨key, kind, visible, iteration, wrapper, style, props, events, children⟩ =>
      ([], ⟨key, kind, visible, iteration, wrapper, style, props, events, children⟩) :: placedAll 0 children

def placedAll : Nat → List Node → List (List Nat × Node)
  | _, [] => []
  | i, n :: rest => n.placed.map (Prod.map (i :: ·) id) ++ placedAll (i + 1) rest
end

theorem placedAll_eq (i : Nat) (ns : List Node) :
    placedAll i ns = (ns.zipIdx i).flatMap fun e => e.1.placed.map (Prod.map (e.2 :: ·) id) := by
  induction ns generalizing i with
  | nil => rfl
  | cons n rest ih => rw [placedAll, ih, List.zipIdx_cons, List.flatMap_cons]

theorem placed_cons (n : Node) : n.placed = ([], n) :: placedAll 0 n.children := by
  cases n
  rfl

theorem placed_eq (n : Node) :
    n.placed = ([], n) :: n.children.zipIdx.flatMap fun e => e.1.placed.map (Prod.map (e.2 :: ·) id) := by
  rw [placed_cons, placedAll_eq]

theorem sizeOf_of_mem_children (h : c ∈ n.children) : sizeOf c < sizeOf n := by
  have smaller : sizeOf c < sizeOf n.children := List.sizeOf_lt_of_mem h
  cases n
  simp only [mk.sizeOf_spec] at *
  omega

theorem children_induction {motive : Node → Prop} (step : ∀ n, (∀ c ∈ n.children, motive c) → motive n)
    (n : Node) : motive n :=
  step n fun c hc =>
    have := sizeOf_of_mem_children hc
    children_induction step c
termination_by sizeOf n

theorem mem_placed (n : Node) : (address, m) ∈ n.placed ↔ n.at? address = some m := by
  induction n using children_induction generalizing address with
  | step n ih =>
      rw [placed_eq, List.mem_cons, List.mem_flatMap]
      cases address with
      | nil => simp [at?, eq_comm]
      | cons i rest =>
          simp only [Prod.exists, List.mem_map, Prod.map, Prod.mk.injEq, List.mk_mem_zipIdx_iff_getElem?,
            at?, Option.bind_eq_some_iff, List.cons.injEq, id_eq, reduceCtorEq, false_and, false_or]
          constructor
          · rintro ⟨c, _, hc, _, _, listed, ⟨rfl, rfl⟩, rfl⟩
            exact ⟨c, hc, (ih c (List.mem_of_getElem? hc)).1 listed⟩
          · rintro ⟨c, hc, found⟩
            exact ⟨c, i, hc, rest, m, (ih c (List.mem_of_getElem? hc)).2 found, ⟨rfl, rfl⟩, rfl⟩

theorem pairwise_snd_zipIdx {α : Type} (l : List α) (i : Nat) :
    (l.zipIdx i).Pairwise fun e f => e.2 < f.2 := by
  rw [← List.pairwise_map (f := Prod.snd) (R := (· < ·)), List.zipIdx_map_snd]
  exact List.pairwise_lt_range'

theorem sorted_placed (n : Node) : n.placed.Pairwise fun e f => e.1 < f.1 := by
  induction n using children_induction with
  | step n ih =>
      rw [placed_eq, List.pairwise_cons, List.pairwise_flatMap]
      refine ⟨fun e he => ?_, fun e he => ?_, (pairwise_snd_zipIdx n.children 0).imp fun earlier x hx y hy => ?_⟩
      · obtain ⟨_, -, he⟩ := List.mem_flatMap.1 he
        obtain ⟨_, -, rfl⟩ := List.mem_map.1 he
        exact List.nil_lt_cons _ _
      · rw [List.pairwise_map]
        exact (ih e.1 (List.fst_mem_of_mem_zipIdx he)).imp fun below => List.cons_lt_cons_iff.2 (.inr ⟨rfl, below⟩)
      · obtain ⟨_, -, rfl⟩ := List.mem_map.1 hx
        obtain ⟨_, -, rfl⟩ := List.mem_map.1 hy
        exact List.cons_lt_cons_iff.2 (.inl earlier)

theorem map_snd_placed (n : Node) : n.placed.map Prod.snd = n.nodes := by
  induction n using children_induction with
  | step n ih =>
      have below : ∀ e ∈ n.children.zipIdx, (e.1.placed.map (Prod.map (e.2 :: ·) id)).map Prod.snd = e.1.nodes := by
        intro e he
        rw [List.map_map, ← ih e.1 (List.fst_mem_of_mem_zipIdx he)]
        rfl
      rw [placed_eq, nodes_eq, List.map_cons, List.map_flatMap, List.flatMap_congr below,
        ← List.flatMap_map Prod.fst nodes, List.zipIdx_map_fst]

end Order

section Outline

variable {r r' : List (Nat × Kind × String)}

def look (n : Node) : Kind × String := (n.kind, n.label)

def outline (d : Nat) (n : Node) : List (Nat × Kind × String) :=
  n.placed.map fun e => (d + e.1.length, e.2.look)

theorem outline_eq (d : Nat) (n : Node) :
    n.outline d = (d, n.look) :: n.children.flatMap (outline (d + 1)) := by
  have below (e : Node × Nat) : (e.1.placed.map (Prod.map (e.2 :: ·) id)).map
      (fun e : List Nat × Node => (d + e.1.length, e.2.look)) = e.1.outline (d + 1) := by
    rw [List.map_map, outline]
    apply List.map_congr_left
    intro e _
    simp only [Function.comp_apply, Prod.map_fst, Prod.map_snd, List.length_cons, id_eq, Prod.mk.injEq, and_true]
    omega
  rw [outline, placed_eq, List.map_cons, List.map_flatMap, List.flatMap_congr fun e _ => below e,
    ← List.flatMap_map Prod.fst (outline (d + 1)), List.zipIdx_map_fst]
  rfl

def SameLook (n n' : Node) : Prop := ∀ address, (n.at? address).map look = (n'.at? address).map look

theorem sameLook_of_children (h : n.look = n'.look) (below : List.Forall₂ SameLook n.children n'.children) :
    SameLook n n' := by
  intro address
  cases address with
  | nil => simp [at?, h]
  | cons i rest =>
      rw [at?, at?]
      generalize n.children = ns, n'.children = ns' at below
      induction below generalizing i with
      | nil => rfl
      | cons same _ ih =>
          cases i with
          | zero => simpa using same rest
          | succ i => simpa using ih i

theorem head?_outlines (ns : List Node) (shallow : ∀ x ∈ r.head?, x.1 < d) :
    ∀ x ∈ (ns.flatMap (outline d) ++ r).head?, x.1 ≤ d := by
  cases ns with
  | nil => exact fun x hx => Nat.le_of_lt (shallow x hx)
  | cons n rest => simp [outline_eq]

theorem sameLooks_of_outlines
    (ih : ∀ n ∈ ns, ∀ n' r r', n.outline d ++ r = n'.outline d ++ r' → (∀ x ∈ r.head?, x.1 ≤ d) →
      (∀ x ∈ r'.head?, x.1 ≤ d) → SameLook n n' ∧ r = r')
    (h : ns.flatMap (outline d) ++ r = ns'.flatMap (outline d) ++ r')
    (shallow : ∀ x ∈ r.head?, x.1 < d) (shallow' : ∀ x ∈ r'.head?, x.1 < d) :
    List.Forall₂ SameLook ns ns' ∧ r = r' := by
  induction ns generalizing ns' with
  | nil =>
      cases ns' with
      | nil => exact ⟨.nil, h⟩
      | cons n' rest' =>
          have head : (d, n'.look) ∈ r.head? := by simp [show r = _ from h, outline_eq]
          exact absurd (shallow _ head) (Nat.lt_irrefl d)
  | cons n rest step =>
      cases ns' with
      | nil =>
          have head : (d, n.look) ∈ r'.head? := by simp [show r' = _ from h.symm, outline_eq]
          exact absurd (shallow' _ head) (Nat.lt_irrefl d)
      | cons n' rest' =>
          rw [List.flatMap_cons, List.flatMap_cons, List.append_assoc, List.append_assoc] at h
          obtain ⟨same, later⟩ := ih n (List.mem_cons_self ..) n' _ _ h (head?_outlines rest shallow)
            (head?_outlines rest' shallow')
          obtain ⟨sames, tail⟩ := step (fun m hm => ih m (List.mem_cons_of_mem _ hm)) later
          exact ⟨.cons same sames, tail⟩

theorem sameLook_of_outline_append (n n' : Node) (d : Nat) (r r' : List (Nat × Kind × String))
    (h : n.outline d ++ r = n'.outline d ++ r') (shallow : ∀ x ∈ r.head?, x.1 ≤ d)
    (shallow' : ∀ x ∈ r'.head?, x.1 ≤ d) : SameLook n n' ∧ r = r' := by
  induction n using children_induction generalizing n' d r r' with
  | step n ih =>
      rw [outline_eq, outline_eq, List.cons_append, List.cons_append] at h
      obtain ⟨own, below⟩ := List.cons.inj h
      obtain ⟨sames, tail⟩ := sameLooks_of_outlines (fun c hc n' => ih c hc n' (d + 1)) below
        (fun x hx => Nat.lt_succ_of_le (shallow x hx)) (fun x hx => Nat.lt_succ_of_le (shallow' x hx))
      exact ⟨sameLook_of_children (Prod.mk.inj own).2 sames, tail⟩

theorem sameLook_of_outline (h : n.outline 0 = n'.outline 0) : SameLook n n' := by
  have h : n.outline 0 ++ [] = n'.outline 0 ++ [] := by rw [h]
  exact (sameLook_of_outline_append n n' 0 [] [] h (by simp) (by simp)).1

end Outline

end Storefront.Node
