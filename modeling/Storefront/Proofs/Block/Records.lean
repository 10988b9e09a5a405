import Mathlib.Data.List.Basic
import Storefront.Proofs.Block.Entries

namespace Storefront

theorem filterMap_filter_eq_iff {α β : Type} {p : α → Bool} {f : α → Option β} {l : List α} :
    l.filterMap f = (l.filter p).filterMap f ↔ ∀ a ∈ l, ∀ b, f a = some b → p a := by
  induction l with
  | nil => simp
  | cons a rest ih =>
      have fewer : ((rest.filter p).filterMap f).length ≤ (rest.filterMap f).length :=
        (List.filter_sublist.filterMap f).length_le
      rw [List.forall_mem_cons, List.filter_cons, List.filterMap_cons, ← ih]
      cases hf : f a with
      | none => by_cases hp : p a <;> simp [hp, hf]
      | some b =>
          by_cases hp : p a
          · simp [hp, hf]
          · -- what is left out on the right cannot be made up for later
            constructor
            · intro h
              rw [if_neg hp] at h
              have same : (b :: rest.filterMap f).length = ((rest.filter p).filterMap f).length :=
                congrArg List.length h
              rw [List.length_cons] at same
              omega
            · rintro ⟨passes, -⟩
              exact absurd (passes b rfl) hp

namespace Json

def isObject : Json → Bool
  | .object _ => true
  | _ => false

def Shape.admits (shape : Shape) : Json → Bool
  | .object _ => true
  | .array items => items.length ≤ shape.fields.length
  | _ => false

structure Shape.Reads {α : Type} (shape : Shape) (read : Json → Except Malformed α) : Prop where
  admitted : ∀ v a, read v = .ok a → shape.admits v
  positional : ∀ items, items.length ≤ shape.fields.length →
    ∃ a, read (.array items) = .ok a ∧ read (.object (shape.fields.zip items)) = .ok a

structure Shape.Takes {α : Type} (shape : Shape) (read : Json → Except Malformed α) (items : List Json)
    (kept : List α) : Prop where
  inOrder : kept = (items.filter shape.admits).filterMap fun v => (read v).toOption
  positional : ∀ xs, .array xs ∈ items → xs.length ≤ shape.fields.length →
    ∃ a ∈ kept, read (.array xs) = .ok a ∧ read (.object (shape.fields.zip xs)) = .ok a
  onlyObjects : kept = ((items.filter isObject).filterMap fun v => (read v).toOption) ↔
    ∀ xs, .array xs ∈ items → shape.fields.length < xs.length

theorem Shape.Reads.takes {α : Type} {shape : Shape} {read : Json → Except Malformed α}
    (h : shape.Reads read) (items : List Json) :
    shape.Takes read items (items.filterMap fun v => (read v).toOption) where
  inOrder := by
    rw [filterMap_filter_eq_iff]
    intro v _ a ha
    exact h.admitted v a (toOption_eq_some.1 ha)
  positional xs hxs short := by
    obtain ⟨a, byPosition, byName⟩ := h.positional xs short
    exact ⟨a, List.mem_filterMap.2 ⟨_, hxs, toOption_eq_some.2 byPosition⟩, byPosition, byName⟩
  onlyObjects := by
    rw [filterMap_filter_eq_iff]
    constructor
    · intro objects xs hxs
      by_contra short
      obtain ⟨a, read_xs, -⟩ := h.positional xs (Nat.le_of_not_lt short)
      exact absurd (objects _ hxs a (toOption_eq_some.2 read_xs)) Bool.false_ne_true
    · intro long v hv a ha
      have admitted := h.admitted v a (toOption_eq_some.1 ha)
      cases v with
      | object entries => rfl
      | array xs =>
          have short : xs.length ≤ shape.fields.length := of_decide_eq_true admitted
          exact absurd (long xs hv) (Nat.not_lt.2 short)
      | _ => cases admitted

theorem Shape.keys_zip_sublist (names : List String) (items : List Json) :
    (Dictionary.keys (names.zip items)).Sublist names := by
  induction names generalizing items with
  | nil => exact List.Sublist.refl _
  | cons name rest ih =>
      cases items with
      | nil => exact List.nil_sublist _
      | cons v items => exact (ih items).cons_cons name

theorem Shape.named_zip {shape : Shape} (h : shape.fields.Nodup) (items : List Json) :
    shape.named [] (shape.fields.zip items) = .ok (shape.fields.zip items) := by
  have own : shape.recognized (shape.fields.zip items) = shape.fields.zip items := by
    have each : ∀ e ∈ shape.fields.zip items,
        ((shape.field? e.1).map fun field => (field, e.2)) = some (id e) := by
      intro e he
      rw [field?, if_pos (List.of_mem_zip he).1]
      rfl
    rw [recognized, List.filterMap_eq_map_iff_forall_eq_some.2 each, List.map_id]
  rw [named_eq_ok_iff, own]
  exact ⟨rfl, h.sublist (keys_zip_sublist shape.fields items), by simp⟩

theorem Shape.reads_map {α : Type} {shape : Shape} (h : shape.fields.Nodup)
    (build : List (String × Json) → α) : shape.Reads fun v => (shape.ofJson v).map build where
  admitted v a ha := by
    cases v with
    | object entries => rfl
    | array items =>
        rw [ofJson, listed] at ha
        split at ha
        · exact decide_eq_true ‹_›
        · cases ha
    | _ => cases ha
  positional items short := by
    refine ⟨build (shape.fields.zip items), ?_, ?_⟩
    · rw [ofJson, listed, if_pos short, Except.map]
    · rw [ofJson, named_zip h, Except.map]

end Json

theorem Condition.reads_ofJson : shape.Reads ofJson := Json.Shape.reads_map (by decide) ofFields

theorem Event.reads_ofJson : shape.Reads ofJson := Json.Shape.reads_map (by decide) ofFields

namespace Block

theorem reads_ofJson : shape.Reads ofJson where
  admitted v a ha := by
    cases v with
    | object entries => rfl
    | array items =>
        rw [ofJson, read] at ha
        split at ha
        · exact decide_eq_true ‹_›
        · cases ha
    | _ => cases ha
  positional items short := by
    have names : shape.fields.Nodup := by decide
    have distinct := names.sublist (Json.Shape.keys_zip_sublist shape.fields items)
    exact ⟨_, ofJson_array short, ofJson_object distinct⟩

def elements (v : Json) (name : String) : List Json :=
  ((Dictionary.get? name (fieldsOf v)).bind Json.asArray?).getD []

theorem mem_parts_of_mem_elements {v w : Json} {name : String} (h : w ∈ elements v name) :
    ∃ list ∈ v.parts, w ∈ list.parts := by
  rw [elements] at h
  cases hl : Dictionary.get? name (fieldsOf v) with
  | none => rw [hl] at h; cases h
  | some list =>
      refine ⟨list, snd_mem_parts_of_mem_fieldsOf (Dictionary.mem_of_get?_eq_some hl), ?_⟩
      rw [hl] at h
      cases list with
      | array items => exact h
      | _ => cases h

theorem readable_fieldsOf {α : Type} (read : Json → Except Json.Malformed α) (v : Json) (name : String) :
    ((Dictionary.get? name (fieldsOf v)).map (Json.readable read)).getD []
      = (elements v name).filterMap fun w => (read w).toOption := by
  rw [elements]
  cases Dictionary.get? name (fieldsOf v) with
  | none => rfl
  | some list => cases list <;> rfl

/-- The lists of a block are made of the values that its fields list, and so on below. -/
inductive Composed : Json → Block → Prop
  | intro {v : Json} {b : Block}
      (conditions : Condition.shape.Takes Condition.ofJson (elements v "conditions") b.conditions)
      (events : Event.shape.Takes Event.ofJson (elements v "events") b.events)
      (children : shape.Takes ofJson (elements v "children") b.children)
      (blocks : shape.Takes ofJson (elements v "blocks") b.blocks)
      (below : ∀ name ∈ ["children", "blocks"], ∀ w ∈ elements v name, ∀ c, ofJson w = .ok c →
        Composed w c) :
      Composed v b

theorem composed_of_ofJson {v : Json} {b : Block} (h : ofJson v = .ok b) : Composed v b := by
  obtain rfl := eq_ofLookup_of_ofJson h
  constructor
  · rw [ofLookup, readable_fieldsOf Condition.ofJson]
    exact Condition.reads_ofJson.takes _
  · rw [ofLookup, readable_fieldsOf Event.ofJson]
    exact Event.reads_ofJson.takes _
  · rw [ofLookup, readable_fieldsOf ofJson v "children"]
    exact reads_ofJson.takes _
  · rw [ofLookup, readable_fieldsOf ofJson v "blocks"]
    exact reads_ofJson.takes _
  · intro name _ w hw c hc
    obtain ⟨list, hlist, inside⟩ := mem_parts_of_mem_elements hw
    have inList : sizeOf w < sizeOf list := Json.sizeOf_of_mem_parts inside
    have inValue : sizeOf list < sizeOf v := Json.sizeOf_of_mem_parts hlist
    exact composed_of_ofJson hc
termination_by sizeOf v
decreasing_by omega

theorem ofJson_object_composed (entries : Dictionary Json) (h : (Json.object entries).Canonical) :
    ∃ b, ofJson (.object entries) = .ok b ∧ Composed (.object entries) b := by
  have distinct : entries.keys.Nodup := (Json.canonical_object_iff.1 h).1.nodup_keys
  obtain ⟨b, hb⟩ := exists_ofJson_object distinct
  exact ⟨b, hb, composed_of_ofJson hb⟩

def mixedPage : Dictionary Json :=
  [("children", .array [.null, .array [.string "row", .null, .null, .null, .null, .array [tested, .string "x"]],
      .object [("type", .string "icon")]]),
    ("events", .array [.bool true, .array [.null, .null, .null, .null]])]
where
  tested : Json := .array [.string "member", .string "not_empty"]

theorem ofJson_object_composed_mixedPage :
    (Json.object mixedPage).Canonical ∧
      ∃ b, ofJson (.object mixedPage) = .ok b ∧ Composed (.object mixedPage) b ∧ b.events = [] ∧
        b.children.map Block.id = [some "row", none] ∧
        b.children.map (fun c => c.conditions.map Condition.field) = [["member"], []] := by
  have canonical : (Json.object mixedPage).Canonical := rfl
  obtain ⟨b, hb, composed⟩ := ofJson_object_composed mixedPage canonical
  refine ⟨canonical, b, hb, composed, ?_⟩
  rw [show ofJson (.object mixedPage) = .ok _ from rfl] at hb
  cases hb
  exact ⟨rfl, rfl, rfl⟩

def heroByPosition : Dictionary Json :=
  [("children", .array [.array [.string "hero"]]), ("id", .string "home")]

theorem ofJson_heroByPosition :
    (Json.object heroByPosition).Canonical ∧
      ∃ b, ofJson (.object heroByPosition) = .ok b ∧ b.children.map Block.id = [some "hero"] ∧
        b.children ≠ ((elements (.object heroByPosition) "children").filter Json.isObject).filterMap
          fun v => (ofJson v).toOption := by
  have canonical : (Json.object heroByPosition).Canonical := rfl
  exact ⟨canonical, _, rfl, rfl, List.cons_ne_nil _ _⟩

end Block

end Storefront
