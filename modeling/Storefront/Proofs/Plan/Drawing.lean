import Mathlib.Data.List.Infix
import Storefront.Proofs.Dictionary
import Storefront.Proofs.Plan.Places
import Storefront.View

namespace Storefront

namespace Node

variable {m n : Node} {up : List Nat}

section Rows

def isLast (n : Node) (address : List Nat) : Bool :=
  match address.getLast? with
  | none => true
  | some i => (n.at? (address.dropLast ++ [i + 1])).isNone

def above (address : List Nat) : List (List Nat) := address.inits.dropLast

def lead (n : Node) (address : List Nat) : String :=
  String.join ((above address).map fun up => if n.isLast up then "  " else "│ ")

structure Row where
  isDetail : Bool
  text : String
  deriving DecidableEq, Repr

def ownRow (n : Node) (address : List Nat) (m : Node) : Row :=
  { isDetail := false,
    text := n.lead address ++ (if n.isLast address then "└─ " else "├─ ") ++ (Sign.block m.kind).icon ++ " " ++ m.label }

def detailRows (n : Node) (address : List Nat) (m : Node) : List Row :=
  let line (j : Nat) (text : String) : String :=
    n.lead (address ++ [0]) ++ (if j + 1 = m.details.length ∧ m.children.isEmpty then "└─ " else "├─ ") ++ text
  (m.details.mapIdx line).map (Row.mk true)

def rows (n : Node) : List Row := n.placed.flatMap fun e => n.ownRow e.1 e.2 :: n.detailRows e.1 e.2

def texts (full : Bool) (rows : List Row) : List String :=
  (rows.filter fun r => full || !r.isDetail).map Row.text

end Rows

section Lines

theorem at?_append (n : Node) (above rest : List Nat) :
    n.at? (above ++ rest) = (n.at? above).bind fun m => m.at? rest := by
  induction above generalizing n with
  | nil => rfl
  | cons i above ih =>
      rw [List.cons_append, at?, at?]
      cases n.children[i]? with
      | none => rfl
      | some c => exact ih c

theorem at?_concat (found : n.at? up = some m) (i : Nat) : n.at? (up ++ [i]) = m.children[i]? := by
  rw [at?_append, found, Option.bind_some, at?]
  cases m.children[i]? <;> rfl

theorem isLast_concat (n : Node) (up : List Nat) (i : Nat) :
    n.isLast (up ++ [i]) = (n.at? (up ++ [i + 1])).isNone := by
  rw [isLast, List.getLast?_concat, List.dropLast_concat]

theorem above_concat (up : List Nat) (i : Nat) : above (up ++ [i]) = above up ++ [up] := by
  have inits_concat (up : List Nat) (i : Nat) : (up ++ [i]).inits = up.inits ++ [up ++ [i]] := by
    rw [List.inits_append]
    rfl
  rw [above, inits_concat, List.dropLast_concat, above]
  rcases List.eq_nil_or_concat up with rfl | ⟨init, last, rfl⟩
  · rfl
  · rw [List.concat_eq_append, inits_concat, List.dropLast_concat]

theorem lead_concat (n : Node) (up : List Nat) (i : Nat) :
    n.lead (up ++ [i]) = n.lead up ++ indentation (n.isLast up) := by
  rw [lead, above_concat, List.map_append, String.join_append, ← lead]
  simp [indentation]

theorem detailLines_eq (lead : String) (followed : Bool) (ls : List String) :
    detailLines lead followed ls
      = ls.mapIdx fun j line => lead ++ connector (j + 1 = ls.length && !followed) ++ line := by
  induction ls with
  | nil => rfl
  | cons line rest ih =>
      have last : rest.isEmpty = decide (0 + 1 = (line :: rest).length) := by cases rest <;> simp
      have shifted (j : Nat) : (j + 1 = rest.length) = (j + 1 + 1 = (line :: rest).length) := by simp
      rw [detailLines, ih, List.mapIdx_cons, last]
      simp only [shifted]

theorem texts_node (full : Bool) (n : Node) (address : List Nat) (m : Node) :
    texts full (n.ownRow address m :: n.detailRows address m) =
      (n.ownRow address m).text :: (if full then
        detailLines (n.lead address ++ indentation (n.isLast address)) (!m.children.isEmpty) m.details else []) := by
  cases full with
  | false => simp [texts, ownRow, detailRows, List.filter_map]
  | true =>
      have bare : Row.text ∘ Row.mk true = id := rfl
      simp [texts, detailRows, detailLines_eq, lead_concat, connector, List.filter_map, bare]

theorem linesOfAll_eq (full : Bool) (n : Node) (ns : List Node) (up : List Nat) (i : Nat)
    (found : ∀ j, n.at? (up ++ [i + j]) = ns[j]?)
    (ih : ∀ c ∈ ns, ∀ up, n.at? up = some c → c.lines full (n.lead up) (n.isLast up) =
      c.placed.flatMap fun e => texts full (n.ownRow (up ++ e.1) e.2 :: n.detailRows (up ++ e.1) e.2)) :
    linesOfAll full ns (n.lead up ++ indentation (n.isLast up)) =
      (placedAll i ns).flatMap fun e => texts full (n.ownRow (up ++ e.1) e.2 :: n.detailRows (up ++ e.1) e.2) := by
  -- Whether a sibling is the last one is read off what stands at the next place.
  induction ns generalizing i with
  | nil => rfl
  | cons c rest step =>
      have here : n.at? (up ++ [i]) = some c := found 0
      have last : n.isLast (up ++ [i]) = rest.isEmpty := by
        rw [isLast_concat, found 1]
        cases rest <;> rfl
      have first := ih c (List.mem_cons_self ..) _ here
      rw [last, lead_concat] at first
      have later := step (i + 1) (fun j => by rw [Nat.add_assoc, Nat.add_comm 1 j, found]; rfl)
        (fun c hc => ih c (List.mem_cons_of_mem _ hc))
      rw [linesOfAll, first, later, placedAll, List.flatMap_append, List.flatMap_map]
      simp

theorem lines_cons (full : Bool) (m : Node) (lead : String) (last : Bool) :
    m.lines full lead last = (lead ++ connector last ++ (Sign.block m.kind).icon ++ " " ++ m.label)
      :: ((if full then detailLines (lead ++ indentation last) (!m.children.isEmpty) m.details else [])
        ++ linesOfAll full m.children (lead ++ indentation last)) := by
  cases m
  rfl

theorem lines_at (full : Bool) (n m : Node) (up : List Nat) (found : n.at? up = some m) :
    m.lines full (n.lead up) (n.isLast up) =
      m.placed.flatMap fun e => texts full (n.ownRow (up ++ e.1) e.2 :: n.detailRows (up ++ e.1) e.2) := by
  induction m using children_induction generalizing up with
  | step m ih =>
      have below := linesOfAll_eq full n m.children up 0 (fun j => by rw [Nat.zero_add, at?_concat found])
        (fun c hc up => ih c hc up)
      rw [lines_cons, placed_cons, List.flatMap_cons, below, texts_node, List.append_nil]
      rfl

theorem texts_rows (full : Bool) (n : Node) :
    texts full n.rows = n.placed.flatMap fun e => texts full (n.ownRow e.1 e.2 :: n.detailRows e.1 e.2) := by
  rw [rows, texts, List.filter_flatMap, List.map_flatMap]
  rfl

theorem lines_eq (full : Bool) (n : Node) : n.lines full "" true = texts full n.rows := by
  rw [texts_rows]
  exact lines_at full n n [] rfl

theorem texts_plain (n : Node) : texts false n.rows = n.placed.map fun e => (n.ownRow e.1 e.2).text := by
  rw [texts_rows, List.flatMap_congr fun e _ => texts_node false n e.1 e.2]
  exact List.map_eq_flatMap.symm

end Lines

section Reading

variable {flags flags' : List Bool} {flag flag' last last' : Bool} {s s' : List Char} {k k' : Kind} {l l' : String}
  {a b : List String}

theorem indentation_append_inj (h : (indentation flag).toList ++ s = (indentation flag').toList ++ s') : s = s' := by
  cases flag <;> cases flag' <;> simp_all [indentation]

theorem connector_append_inj (h : (connector last).toList ++ s = (connector last').toList ++ s') : s = s' := by
  cases last <;> cases last' <;> simp_all [connector]

theorem indentation_ne_connector (flag last : Bool) (s s' : List Char) :
    (indentation flag).toList ++ s ≠ (connector last).toList ++ s' := by
  cases flag <;> cases last <;> simp [indentation, connector]

theorem length_flags_inj
    (h : flags.flatMap (fun f => (indentation f).toList) ++ ((connector last).toList ++ s)
      = flags'.flatMap (fun f => (indentation f).toList) ++ ((connector last').toList ++ s')) :
    flags.length = flags'.length ∧ s = s' := by
  induction flags generalizing flags' with
  | nil =>
      cases flags' with
      | nil => exact ⟨rfl, connector_append_inj h⟩
      | cons flag' rest' =>
          rw [List.flatMap_cons, List.append_assoc] at h
          exact (indentation_ne_connector _ _ _ _ h.symm).elim
  | cons flag rest ih =>
      cases flags' with
      | nil =>
          rw [List.flatMap_cons, List.append_assoc] at h
          exact (indentation_ne_connector _ _ _ _ h).elim
      | cons flag' rest' =>
          rw [List.flatMap_cons, List.flatMap_cons, List.append_assoc, List.append_assoc] at h
          obtain ⟨same, rest⟩ := ih (indentation_append_inj h)
          exact ⟨congrArg Nat.succ same, rest⟩

theorem icon_inj (h : (Sign.block k).icon = (Sign.block k').icon) : k = k' := by
  cases k <;> cases k' <;> simp [Sign.icon] at h ⊢

theorem icon_append_inj
    (h : (Sign.block k).icon.toList ++ ' ' :: l.toList = (Sign.block k').icon.toList ++ ' ' :: l'.toList) :
    k = k' ∧ l = l' := by
  have short (k : Kind) : (Sign.block k).icon.toList.length = 1 := by cases k <;> rfl
  obtain ⟨icon, rest⟩ := List.append_inj h (by rw [short, short])
  exact ⟨icon_inj (String.toList_inj.1 icon), String.toList_inj.1 (List.cons.inj rest).2⟩

theorem length_above (address : List Nat) : (above address).length = address.length := by
  simp [above]

theorem toList_ownRow (n : Node) (address : List Nat) (m : Node) : (n.ownRow address m).text.toList =
    ((above address).map n.isLast).flatMap (fun f => (indentation f).toList)
      ++ ((connector (n.isLast address)).toList ++ ((Sign.block m.kind).icon.toList ++ ' ' :: m.label.toList)) := by
  simp [ownRow, lead, String.toList_join, List.flatMap_map, indentation, connector]

theorem ownRow_inj {n n' m m' : Node} {address address' : List Nat}
    (h : (n.ownRow address m).text = (n'.ownRow address' m').text) :
    address.length = address'.length ∧ m.look = m'.look := by
  have h := congrArg String.toList h
  rw [toList_ownRow, toList_ownRow] at h
  obtain ⟨depth, shown⟩ := length_flags_inj h
  obtain ⟨kind, label⟩ := icon_append_inj shown
  rw [List.length_map, List.length_map, length_above, length_above] at depth
  exact ⟨depth, by rw [look, look, kind, label]⟩

theorem split_lines (clean : ∀ line ∈ a, '\n' ∉ line.toList) :
    Text.split '\n' (String.join (a.map (· ++ "\n"))).toList = a.map String.toList ++ [[]] := by
  induction a with
  | nil => rfl
  | cons line rest ih =>
      rw [List.forall_mem_cons] at clean
      rw [List.map_cons, String.join_cons, String.append_assoc, String.toList_append, String.toList_append]
      have mark : "\n".toList ++ (String.join (rest.map (· ++ "\n"))).toList
          = '\n' :: (String.join (rest.map (· ++ "\n"))).toList := by simp
      rw [mark, Text.split_append_mark, Text.split_of_notMem clean.1, ih clean.2]
      rfl

theorem lines_inj (ha : ∀ line ∈ a, '\n' ∉ line.toList) (hb : ∀ line ∈ b, '\n' ∉ line.toList)
    (h : String.join (a.map (· ++ "\n")) = String.join (b.map (· ++ "\n"))) : a = b := by
  have parts : a.map String.toList ++ [[]] = b.map String.toList ++ [[]] := by
    rw [← split_lines ha, ← split_lines hb, h]
  exact List.map_injective_iff.2 (fun _ _ => String.toList_inj.1) (List.append_cancel_right parts)

theorem outline_of_texts {n n' : Node} (h : texts false n.rows = texts false n'.rows) :
    n.outline 0 = n'.outline 0 := by
  rw [texts_plain, texts_plain, ← List.forall₂_eq_eq_eq, List.forall₂_map_left_iff, List.forall₂_map_right_iff] at h
  rw [outline, outline, ← List.forall₂_eq_eq_eq, List.forall₂_map_left_iff, List.forall₂_map_right_iff]
  apply h.imp
  intro e e' same
  obtain ⟨depth, look⟩ := ownRow_inj same
  rw [depth, look]

theorem newline_notMem_ownRow {n m : Node} {address : List Nat} (clean : '\n' ∉ m.label.toList) :
    '\n' ∉ (n.ownRow address m).text.toList := by
  have columns (flag : Bool) : '\n' ∉ (indentation flag).toList := by cases flag <;> decide
  have corner (last : Bool) : '\n' ∉ (connector last).toList := by cases last <;> decide
  have icon (k : Kind) : '\n' ∉ (Sign.block k).icon.toList := by cases k <;> decide
  simp [toList_ownRow, columns, corner, icon, clean]

end Reading

end Node

namespace Plan

theorem newline_notMem_headline (p : Plan) : '\n' ∉ p.headline.toList := by
  have number (n : Nat) : '\n' ∉ Nat.toDigits 10 n := by
    intro h
    have digit := Nat.isDigit_of_mem_toDigits (by decide) (by decide) h
    exact absurd digit (by decide)
  have plural (n : Nat) : '\n' ∉ (if n = 1 then "" else "s").toList := by split <;> decide
  simp [headline, counted, Sign.icon, number, plural]

theorem headline_eq (p : Plan) : p.headline = "⧉ Plan (" ++ counted p.root.placed.length "node" ++ ", "
    ++ counted p.reports.length "diagnostic" ++ ")" := by
  have total : p.count = p.root.placed.length := by
    rw [count, ← Node.length_nodes, ← Node.map_snd_placed, List.length_map]
  rw [headline, total]
  rfl

theorem draw_eq (p : Plan) (full : Bool) :
    p.draw full = String.join ((p.headline :: Node.texts full p.root.rows).map (· ++ "\n")) := by
  rw [draw, Node.lines_eq]

theorem sameLook_of_draw {p q : Plan} (hp : ∀ m ∈ p.root.nodes, '\n' ∉ m.label.toList)
    (hq : ∀ m ∈ q.root.nodes, '\n' ∉ m.label.toList) (h : p.draw false = q.draw false) :
    Node.SameLook p.root q.root := by
  have clean (p : Plan) (hp : ∀ m ∈ p.root.nodes, '\n' ∉ m.label.toList) :
      ∀ line ∈ p.headline :: Node.texts false p.root.rows, '\n' ∉ line.toList := by
    rw [List.forall_mem_cons, Node.texts_plain, List.forall_mem_map]
    refine ⟨p.newline_notMem_headline, fun e he => Node.newline_notMem_ownRow (hp e.2 ?_)⟩
    rw [← Node.map_snd_placed]
    exact List.mem_map_of_mem he
  rw [draw_eq, draw_eq] at h
  have same_lines := Node.lines_inj (clean p hp) (clean q hq) h
  exact Node.sameLook_of_outline (Node.outline_of_texts (List.cons.inj same_lines).2)

theorem wantsFull_iff (params : Dictionary String) :
    wantsFull params = true ↔ ∃ value, params.get? "plan-full" = some value ∧ value.toLower = "true" := by
  rw [wantsFull]
  cases params.get? "plan-full" <;> simp

theorem render_tree_eq (p : Plan) (params : Dictionary String) : View.tree.render p params =
    String.join ((p.headline :: Node.texts (wantsFull params) p.root.rows).map (· ++ "\n")) := by
  rw [View.render, draw_eq]

theorem sameLook_of_render {p q : Plan} {params params' : Dictionary String} (plain : wantsFull params = false)
    (plain' : wantsFull params' = false) (hp : ∀ m ∈ p.root.nodes, '\n' ∉ m.label.toList)
    (hq : ∀ m ∈ q.root.nodes, '\n' ∉ m.label.toList)
    (h : View.tree.render p params = View.tree.render q params') : Node.SameLook p.root q.root := by
  rw [View.render, View.render, plain, plain'] at h
  exact sameLook_of_draw hp hq h

theorem draw_faithful (p : Plan) :
    (p.root.placed.Pairwise (fun e f => e.1 < f.1) ∧
      ∀ address m, (address, m) ∈ p.root.placed ↔ p.root.at? address = some m) ∧
    p.headline = "⧉ Plan (" ++ counted p.root.placed.length "node" ++ ", "
      ++ counted p.reports.length "diagnostic" ++ ")" ∧
    (∀ full, p.draw full = String.join ((p.headline :: Node.texts full p.root.rows).map (· ++ "\n"))) ∧
    (∀ params, View.tree.render p params =
        String.join ((p.headline :: Node.texts (wantsFull params) p.root.rows).map (· ++ "\n")) ∧
      (wantsFull params = true ↔ ∃ value, params.get? "plan-full" = some value ∧ value.toLower = "true")) ∧
    (∀ m ∈ p.root.nodes, m.props.Sorted → ∀ key value, m.props.get? key = some value →
      m.details[(m.props.keys.filter (· < key)).length]? = some (Node.propLine (key, value))) ∧
    (∀ m ∈ p.root.nodes, ∀ j : Nat, m.details[m.props.length + j]? = m.events[j]?.map Node.eventLine) ∧
    ∀ q : Plan, (∀ m ∈ p.root.nodes, '\n' ∉ m.label.toList) → (∀ m ∈ q.root.nodes, '\n' ∉ m.label.toList) →
      (p.draw false = q.draw false → Node.SameLook p.root q.root) ∧
      ∀ params params', wantsFull params = false → wantsFull params' = false →
        View.tree.render p params = View.tree.render q params' → Node.SameLook p.root q.root := by
  refine ⟨⟨Node.sorted_placed p.root, fun address m => Node.mem_placed p.root⟩, p.headline_eq, p.draw_eq,
    fun params => ⟨p.render_tree_eq params, wantsFull_iff params⟩, ?_, ?_,
    fun q hp hq => ⟨sameLook_of_draw hp hq, fun params params' plain plain' =>
      sameLook_of_render plain plain' hp hq⟩⟩
  · intro m _ sorted key value listed
    have place := sorted.getElem?_of_get? listed
    obtain ⟨inside, -⟩ := List.getElem?_eq_some_iff.1 place
    rw [Node.details, List.getElem?_append_left (by rwa [List.length_map]), List.getElem?_map, place, Option.map_some]
  · intro m _ j
    rw [Node.details, List.getElem?_append_right (by simp), List.length_map, Nat.add_sub_cancel_left, List.getElem?_map]

def shelf (props : Dictionary Json) (events : List PlannedEvent) : Plan :=
  { root := { key := "home", kind := .element, visible := true, wrapper := { tag := "main" }, children := [
      { key := "home/list", kind := .repeater, visible := true, wrapper := { tag := "ul" }, props, children := [
          { key := "home/list/0/card", kind := .element, visible := false, iteration := some 0,
            wrapper := { tag := "li" } }] },
      { key := "home/buy", kind := .navButton, visible := true, wrapper := { tag := "a", id := some "buy" }, props,
        events }] },
    reports := [] }

def fullShelf : Plan :=
  shelf [("label", .string "Buy"), ("price", .ofNat 5)]
    [⟨.navigate, some { action := .navigate, target := .text "/cart" }⟩, ⟨.other "warp", none⟩]

theorem draw_faithful_shelf :
    (∀ m ∈ fullShelf.root.nodes, '\n' ∉ m.label.toList) ∧ (∀ m ∈ (shelf [] []).root.nodes, '\n' ∉ m.label.toList) ∧
    View.tree.render fullShelf [("plan-full", "True")] =
      "⧉ Plan (4 nodes, 0 diagnostics)\n" ++
      "└─ □ main home\n" ++
      "  ├─ ⟳ ul home/list\n" ++
      "  │ ├─ ≔ label = \"Buy\"\n" ++
      "  │ ├─ ≔ price = 5\n" ++
      "  │ └─ □ li home/list/0/card #0 (hidden)\n" ++
      "  └─ ➜ a#buy home/buy\n" ++
      "    ├─ ≔ label = \"Buy\"\n" ++
      "    ├─ ≔ price = 5\n" ++
      "    ├─ ⚡ navigate → /cart\n" ++
      "    └─ ⚡ warp → ∅\n" ∧
    wantsFull [] = false ∧ wantsFull [("plan-full", "no")] = false ∧
    View.tree.render fullShelf [] = View.tree.render (shelf [] []) [("plan-full", "no")] ∧
    fullShelf.draw false = (shelf [] []).draw false ∧
    Node.SameLook fullShelf.root (shelf [] []).root := by
  have clean : ∀ m ∈ fullShelf.root.nodes, '\n' ∉ m.label.toList := by decide
  have clean' : ∀ m ∈ (shelf [] []).root.nodes, '\n' ∉ m.label.toList := by decide
  obtain ⟨-, -, -, rendered, -, -, read⟩ := draw_faithful fullShelf
  obtain ⟨drawn, asked⟩ := rendered [("plan-full", "True")]
  have full : wantsFull [("plan-full", "True")] = true := asked.2 ⟨"True", rfl, by decide +kernel⟩
  have off : wantsFull [("plan-full", "no")] = false := by decide +kernel
  have plain : fullShelf.draw false = (shelf [] []).draw false := by decide +kernel
  have shown : View.tree.render fullShelf [] = View.tree.render (shelf [] []) [("plan-full", "no")] := by
    rw [View.render, View.render, off]
    exact plain
  refine ⟨clean, clean', ?_, rfl, off, shown, plain, (read (shelf [] []) clean clean').2 _ _ rfl off shown⟩
  rw [drawn, full]
  decide +kernel

end Plan

end Storefront
