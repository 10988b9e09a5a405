import Storefront.Proofs.Block.Fields

namespace Storefront

structure Json.KeepsObjects {α : Type} (passes : Dictionary Json → Prop)
    (read : Json → Except Json.Malformed α) (items : List Json) (kept : List α) : Prop where
  inOrder : kept = items.filterMap fun v => (read v).toOption
  objects : ∀ entries, .object entries ∈ items →
    ((∃ a, read (.object entries) = .ok a) ↔ passes entries)

theorem Event.exists_ofJson_object {entries : Dictionary Json} (h : entries.keys.Nodup) :
    ∃ e, Event.ofJson (.object entries) = .ok e := by
  have plain : shape.aliases = [] := rfl
  obtain ⟨fields, hf⟩ := Json.Shape.exists_named_of_no_aliases plain h
  exact ⟨ofFields fields, by rw [ofJson, Json.Shape.ofJson, hf, Except.map]⟩

/-- The operator of a condition is given under both of its names. -/
def Condition.NamesOperatorTwice (entries : Dictionary Json) : Prop :=
  "op" ∈ entries.keys ∧ "operator" ∈ entries.keys

theorem Condition.field?_eq_some {key field : String} (h : shape.field? key = some field) :
    key = field ∨ key = "operator" ∧ field = "op" := by
  rw [Json.Shape.field?] at h
  split at h
  · exact .inl (Option.some.inj h)
  · simp only [shape, Dictionary.get?] at h
    split at h
    · rename_i hk
      exact .inr ⟨hk.symm, (Option.some.inj h).symm⟩
    · cases h

theorem Condition.exists_ofJson_object_iff {entries : Dictionary Json} (h : entries.keys.Nodup) :
    (∃ c, Condition.ofJson (.object entries) = .ok c) ↔ ¬ NamesOperatorTwice entries := by
  have named : (∃ c, Condition.ofJson (.object entries) = .ok c)
      ↔ ∃ fields, shape.named [] entries = .ok fields := by
    rw [ofJson, Json.Shape.ofJson]
    cases shape.named [] entries <;> simp [Except.map]
  rw [named, Json.Shape.exists_named_iff h]
  constructor
  · rintro same ⟨hop, hoperator⟩
    have heq : "op" = "operator" := same "op" hop "operator" hoperator "op" rfl rfl
    exact absurd heq (by decide)
  · intro once j hj k hk field hjf hkf
    rcases Condition.field?_eq_some hjf with rfl | ⟨rfl, rfl⟩
    · rcases Condition.field?_eq_some hkf with rfl | ⟨rfl, rfl⟩
      · rfl
      · exact absurd ⟨hj, hk⟩ once
    · rcases Condition.field?_eq_some hkf with rfl | ⟨rfl, -⟩
      · exact absurd ⟨hk, hj⟩ once
      · rfl

namespace Block

/-- The lists of a block are what an object lists under their names, and so on below. -/
inductive Faithful : Dictionary Json → Block → Prop
  | intro {entries : Dictionary Json} {b : Block}
      (conditions : ∀ items, entries.get? "conditions" = some (.array items) →
        Json.KeepsObjects (fun c => ¬ Condition.NamesOperatorTwice c) Condition.ofJson items b.conditions)
      (events : ∀ items, entries.get? "events" = some (.array items) →
        Json.KeepsObjects (fun _ => True) Event.ofJson items b.events)
      (children : ∀ items, entries.get? "children" = some (.array items) →
        Json.KeepsObjects (fun _ => True) ofJson items b.children)
      (blocks : ∀ items, entries.get? "blocks" = some (.array items) →
        Json.KeepsObjects (fun _ => True) ofJson items b.blocks)
      (below : ∀ name ∈ ["children", "blocks"], ∀ items, entries.get? name = some (.array items) →
        ∀ c, .object c ∈ items → ∀ a, ofJson (.object c) = .ok a → Faithful c a) :
      Faithful entries b

theorem exists_ofJson_object {entries : Dictionary Json} (h : entries.keys.Nodup) :
    ∃ b, ofJson (.object entries) = .ok b := ⟨_, ofJson_object h⟩

section Listed

variable {entries : Dictionary Json} {name : String} {items : List Json}

theorem mem_parts_of_listed (hi : entries.get? name = some (.array items)) :
    .array items ∈ (Json.object entries).parts :=
  List.mem_map_of_mem (Dictionary.mem_of_get?_eq_some hi)

theorem canonical_of_listed (h : (Json.object entries).Canonical)
    (hi : entries.get? name = some (.array items)) {v : Json} (hv : v ∈ items) : v.Canonical :=
  (h.of_mem_parts (mem_parts_of_listed hi)).of_mem_parts hv

theorem sizeOf_of_listed (hi : entries.get? name = some (.array items)) {v : Json} (hv : v ∈ items) :
    sizeOf v < sizeOf (Json.object entries) := by
  have inArray : sizeOf v < sizeOf (Json.array items) := Json.sizeOf_of_mem_parts hv
  have inObject := Json.sizeOf_of_mem_parts (mem_parts_of_listed hi)
  omega

theorem keepsObjects_of_listed {α : Type} {read : Json → Except Json.Malformed α}
    {passes : Dictionary Json → Prop} (h : (Json.object entries).Canonical)
    (hi : entries.get? name = some (.array items))
    (reads : ∀ c : Dictionary Json, c.keys.Nodup → ((∃ a, read (.object c) = .ok a) ↔ passes c)) :
    Json.KeepsObjects passes read items
      (((entries.get? name).map (Json.readable read)).getD []) where
  inOrder := by rw [hi]; rfl
  objects c hc := reads c (Json.canonical_object_iff.1 (canonical_of_listed h hi hc)).1.nodup_keys

end Listed

theorem ofJson_object_faithful (entries : Dictionary Json) (h : (Json.object entries).Canonical) :
    ∃ b, ofJson (.object entries) = .ok b ∧ Faithful entries b := by
  have distinct : entries.keys.Nodup := (Json.canonical_object_iff.1 h).1.nodup_keys
  have always {α : Type} {read : Json → Except Json.Malformed α}
      (reads : ∀ {c : Dictionary Json}, c.keys.Nodup → ∃ a, read (.object c) = .ok a) :
      ∀ c : Dictionary Json, c.keys.Nodup → ((∃ a, read (.object c) = .ok a) ↔ True) :=
    fun c hc => ⟨fun _ => trivial, fun _ => reads hc⟩
  refine ⟨_, ofJson_object distinct, ?_⟩
  constructor
  · intro items hi
    exact keepsObjects_of_listed h hi fun c hc => Condition.exists_ofJson_object_iff hc
  · intro items hi
    exact keepsObjects_of_listed h hi (always Event.exists_ofJson_object)
  · intro items hi
    exact keepsObjects_of_listed h hi (always exists_ofJson_object)
  · intro items hi
    exact keepsObjects_of_listed h hi (always exists_ofJson_object)
  · -- a listed object stands inside, so the statement holds of it already
    intro name _ items hi c hc a ha
    have smaller : sizeOf (Json.object c) < sizeOf (Json.object entries) := sizeOf_of_listed hi hc
    obtain ⟨b, hb, faithful⟩ := ofJson_object_faithful c (canonical_of_listed h hi hc)
    rw [hb] at ha
    cases ha
    exact faithful
termination_by sizeOf (Json.object entries)
decreasing_by exact smaller

def oddPage : Dictionary Json :=
  [("children", .array [.string "text", .object [("conditions", .array [oddCondition]), ("id", .array [])]]),
    ("events", .array [.object [], .null, .object [("action", .null), ("target", .ofNat 2)]])]
where
  oddCondition : Json := .object [("extra", .bool true), ("field", .null), ("operator", .array [.null])]

theorem ofJson_object_faithful_oddPage :
    (Json.object oddPage).Canonical ∧ ∃ b, ofJson (.object oddPage) = .ok b ∧ Faithful oddPage b ∧
      b.events.length = 2 ∧ b.children.map (fun c => c.conditions.length) = [1] := by
  have canonical : (Json.object oddPage).Canonical := rfl
  obtain ⟨b, hb, faithful⟩ := ofJson_object_faithful oddPage canonical
  refine ⟨canonical, b, hb, faithful, ?_⟩
  rw [show ofJson (.object oddPage) = .ok _ from rfl] at hb
  cases hb
  exact ⟨rfl, rfl⟩

def membersOnly : Dictionary Json :=
  [("conditions", .array [.object
    [("field", .string "member"), ("op", .string "not_empty"), ("operator", .string "not_empty")]])]

theorem ofJson_membersOnly :
    (Json.object membersOnly).Canonical ∧
      ∃ b, ofJson (.object membersOnly) = .ok b ∧ b.conditions = [] := by
  have canonical : (Json.object membersOnly).Canonical := rfl
  exact ⟨canonical, _, rfl, rfl⟩

end Block

end Storefront
