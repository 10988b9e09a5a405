import Storefront.Json.Record

namespace Storefront

theorem map_eq_self_iff {α : Type} {f : α → α} {l : List α} : l.map f = l ↔ ∀ a ∈ l, f a = a := by
  have same : l.map f = l.map id ↔ ∀ a ∈ l, f a = id a := List.map_inj_left
  simpa using same

theorem Dictionary.keys_mapValues {α β : Type} (f : α → β) (d : Dictionary α) :
    Dictionary.keys (d.map fun e => (e.1, f e.2)) = d.keys := by
  simp [Dictionary.keys]

namespace Json

theorem sortedItems_eq (items : List Json) : sortedItems items = items.map sorted := by
  induction items with
  | nil => rfl
  | cons v rest ih => rw [sortedItems, ih, List.map_cons]

theorem sortedEntries_eq (entries : List (String × Json)) :
    sortedEntries entries = entries.map fun e => (e.1, e.2.sorted) := by
  induction entries with
  | nil => rfl
  | cons e rest ih => rw [sortedEntries, ih, List.map_cons]

theorem sorted_array (items : List Json) : (Json.array items).sorted = .array (items.map sorted) := by
  rw [sorted, sortedItems_eq]

theorem sorted_object (entries : List (String × Json)) :
    (Json.object entries).sorted = .object (Dictionary.ofList (entries.map fun e => (e.1, e.2.sorted))) := by
  rw [sorted, sortedEntries_eq]

/-- Sorting changes nothing: the keys of each object are increasing and distinct, at every depth. -/
def Canonical (v : Json) : Prop := v.sorted = v

def parts : Json → List Json
  | .array items => items
  | .object entries => entries.map Prod.snd
  | _ => []

theorem sizeOf_of_mem_parts {v w : Json} (h : w ∈ v.parts) : sizeOf w < sizeOf v := by
  cases v with
  | array items =>
      have : sizeOf w < sizeOf items := List.sizeOf_lt_of_mem h
      simp only [array.sizeOf_spec]
      omega
  | object entries =>
      obtain ⟨e, he, rfl⟩ := List.mem_map.1 h
      obtain ⟨k, w⟩ := e
      have := List.sizeOf_lt_of_mem he
      simp only [Prod.mk.sizeOf_spec] at this
      simp only [object.sizeOf_spec]
      omega
  | _ => cases h

theorem canonical_array_iff {items : List Json} :
    (Json.array items).Canonical ↔ ∀ v ∈ items, v.Canonical := by
  rw [Canonical, sorted_array, Json.array.injEq]
  constructor
  · intro h v hv
    exact map_eq_self_iff.1 h v hv
  · intro h
    exact map_eq_self_iff.2 h

theorem canonical_object_iff {entries : Dictionary Json} :
    (Json.object entries).Canonical ↔ entries.Sorted ∧ ∀ e ∈ entries, e.2.Canonical := by
  rw [Canonical, sorted_object, Json.object.injEq]
  have same (h : entries.Sorted) : Dictionary.ofList (entries.map fun e => (e.1, e.2.sorted))
      = entries.map fun e => (e.1, e.2.sorted) := by
    apply Dictionary.ofList_of_sorted
    rwa [Dictionary.Sorted, Dictionary.keys_mapValues]
  constructor
  · intro h
    have sorted : entries.Sorted := h ▸ Dictionary.sorted_ofList _
    rw [same sorted] at h
    refine ⟨sorted, fun e he => ?_⟩
    exact congrArg Prod.snd (map_eq_self_iff.1 h e he)
  · rintro ⟨sorted, values⟩
    rw [same sorted]
    apply map_eq_self_iff.2
    intro e he
    rw [values e he]

theorem Canonical.of_mem_parts {v w : Json} (h : v.Canonical) (hw : w ∈ v.parts) : w.Canonical := by
  cases v with
  | array items => exact canonical_array_iff.1 h w hw
  | object entries =>
      obtain ⟨e, he, rfl⟩ := List.mem_map.1 hw
      exact (canonical_object_iff.1 h).2 e he
  | _ => cases hw

end Json

end Storefront
