import Storefront.Proofs.Plan.Mirror

namespace Storefront

theorem Text.exists_split_eq (mark : Char) (s : List Char) :
    ∃ rest, split mark s = s.takeWhile (· != mark) :: rest := by
  induction s with
  | nil => exact ⟨[], rfl⟩
  | cons c rest ih =>
      obtain ⟨parts, hparts⟩ := ih
      by_cases hc : c = mark
      · exact ⟨split mark rest, by simp [split, hc]⟩
      · exact ⟨parts, by simp [split, hc, hparts]⟩

namespace Path

def head (path : String) : String := String.ofList ((normalize path).toList.takeWhile (· != '.'))

theorem exists_segments_eq (path : String) : ∃ rest, segments path = head path :: rest := by
  obtain ⟨parts, hparts⟩ := Text.exists_split_eq '.' (dotIndices none path.toList)
  exact ⟨parts.map String.ofList, by simp [segments, hparts, head, normalize]⟩

end Path

theorem Scope.resolve_eq_of_lookup_head {s t : Scope} {path : String}
    (h : s.lookup (Path.head path) = t.lookup (Path.head path)) : s.resolve path = t.resolve path := by
  obtain ⟨rest, hpath⟩ := Path.exists_segments_eq path
  simp only [resolve, Path.resolveWith, hpath, h]

namespace Plan

structure Round.Agree (s t : Scope) (r r' : Round) : Prop where
  key : r.key = r'.key
  iteration : r.iteration = r'.iteration
  lookup : ∀ name, s.lookup name = t.lookup name → r.scope.lookup name = r'.scope.lookup name

namespace Visit

structure Agree (d : Dispatcher) (v w : Visit) : Prop where
  block : v.block = w.block
  key : v.key = w.key
  iteration : v.iteration = w.iteration
  lookup : ∀ address b, v.block.at? address = some b → ∀ path ∈ b.paths d,
    v.scope.lookup (Path.head path) = w.scope.lookup (Path.head path)

variable {o : WalkOptions} {v w : Visit}

theorem Agree.resolve {d : Dispatcher} (h : Agree d v w) {path : String} (hp : path ∈ v.block.paths d) :
    v.scope.resolve path = w.scope.resolve path :=
  Scope.resolve_eq_of_lookup_head (h.lookup [] v.block rfl path hp)

theorem Agree.nodeOf (h : Agree o.dispatcher v w) :
    nodeOf o v.scope v.key v.iteration v.block = nodeOf o w.scope w.key w.iteration w.block := by
  rw [← h.block, ← h.key, ← h.iteration]
  exact nodeOf_congr fun path hp => h.resolve hp

theorem Agree.shown (h : Agree o.dispatcher v w) : v.shown = w.shown := by
  rw [← face_visible o, ← face_visible o, face, face, h.nodeOf]

theorem Agree.roundsOf (h : Agree o.dispatcher v w) :
    List.Forall₂ (Round.Agree v.scope w.scope) (v.rounds o) (w.rounds o) ∧
      (roundsOf o.repeater w.scope w.key w.block).2 = (roundsOf o.repeater v.scope v.key v.block).2 := by
  rw [Visit.rounds, Visit.rounds, ← h.block, ← h.key]
  have same : id v.key = v.key := rfl
  refine And.imp_right (fun reports => reports.trans (List.map_id _))
    (roundsOf_related same (fun e he => h.resolve (Block.snd_mem_paths he)) ⟨rfl, rfl, fun _ agree => agree⟩
      fun item i => ⟨rfl, rfl, fun name agree => ?_⟩)
  rw [Scope.lookup_push, Scope.lookup_push, agree]

theorem Agree.inRound (h : Agree o.dispatcher v w) {r r' : Round}
    (hr : Round.Agree v.scope w.scope r r') :
    List.Forall₂ (Agree o.dispatcher) (v.inRound r) (w.inRound r') := by
  simp only [Visit.inRound, ← h.block, List.forall₂_map_left_iff, List.forall₂_map_right_iff]
  refine List.forall₂_same.2 fun e he => ⟨rfl, by rw [hr.key], hr.iteration, fun address b hb path hp => ?_⟩
  obtain ⟨hc, -⟩ := List.getElem?_zip_eq_some.1 (List.mem_zipIdx_iff_getElem?.1 he)
  -- a block below the nested one is a block below the visit, one step further down
  have below : v.block.at? (e.2 :: address) = some b := by
    rw [Block.at?, hc]
    exact hb
  exact hr.lookup _ (h.lookup _ b below path hp)

theorem Agree.next (h : Agree o.dispatcher v w) :
    List.Forall₂ (Agree o.dispatcher) (v.next o) (w.next o) := by
  rw [Visit.next, Visit.next, ← h.shown]
  split
  · exact List.rel_flatMap h.roundsOf.1 fun _ _ hr => h.inRound hr
  · exact .nil

theorem Agree.own (h : Agree o.dispatcher v w) : v.own o = w.own o := by
  rw [Visit.own, Visit.own, h.nodeOf, h.shown, h.roundsOf.2]

theorem ofPage_congr (o : WalkOptions) (root : Block) (page page' : Json)
    (h : ∀ address b, root.at? address = some b → ∀ path ∈ b.paths o.dispatcher,
      page.field? (Path.head path) = page'.field? (Path.head path)) :
    ofPage o page root = ofPage o page' root := by
  have agree : Agree o.dispatcher (start page root) (start page' root) := ⟨rfl, rfl, rfl, h⟩
  have same := result_of_related (f := id) (g := some) (R := Agree o.dispatcher)
    (fun h children => by rw [List.map_id, face, face, h.nodeOf]; rfl)
    (fun h => by rw [List.filterMap_some, h.own]) (fun h => h.next) agree
  rw [ofPage_eq, ofPage_eq, same.1, same.2, List.filterMap_some, id]

def offerList : Block :=
  { type := some "repeater", bindings := [("items", "offers[0].list")],
    conditions := [{ field := "offers", op := .notEmpty }],
    events := [{ action := .navigate, target := "home.url" }],
    children := [{ id := some "offer", bindings := [("name", "item.name")],
                   events := [{ action := .search, target := "product.tag" }] }] }

def offers : Json := .array [.object [("list", .array [.object [("name", .string "mug")], .null])]]

theorem ofPage_congr_offerList :
    (∀ address b, offerList.at? address = some b → ∀ path ∈ b.paths {},
      (Json.object [("home", .null), ("offers", offers)]).field? (Path.head path)
        = (Json.object [("offers", offers), ("visitor", .string "Eve")]).field? (Path.head path)) ∧
    ofPage {} (.object [("home", .null), ("offers", offers)]) offerList
      = ofPage {} (.object [("offers", offers), ("visitor", .string "Eve")]) offerList ∧
    (ofPage {} (.object [("home", .null), ("offers", offers)]) offerList).count = 3 := by
  have names : ∀ address b, offerList.at? address = some b → ∀ path ∈ b.paths {},
      Path.head path ∈ ["offers", "item", "product"] := by
    intro address b hb
    match address with
    | [] =>
        obtain rfl := Option.some.inj hb
        decide
    | [0] =>
        obtain rfl := Option.some.inj hb
        decide
    | 0 :: _ :: _ => cases hb
    | (_ + 1) :: _ => cases hb
  have same : ∀ address b, offerList.at? address = some b → ∀ path ∈ b.paths {},
      (Json.object [("home", .null), ("offers", offers)]).field? (Path.head path)
        = (Json.object [("offers", offers), ("visitor", .string "Eve")]).field? (Path.head path) := by
    intro address b hb path hp
    have name := names address b hb path hp
    generalize Path.head path = head at name
    simp only [List.mem_cons, List.not_mem_nil, or_false] at name
    rcases name with rfl | rfl | rfl <;> rfl
  exact ⟨same, ofPage_congr {} offerList _ _ same, rfl⟩

end Visit

end Plan

end Storefront
