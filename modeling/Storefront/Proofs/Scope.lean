import Storefront.Scope

namespace Storefront

namespace Path

theorem segments_ne_nil (path : String) : segments path ≠ [] := by
  intro h
  rw [segments, List.map_eq_nil_iff] at h
  exact Text.split_ne_nil '.' _ h

theorem resolveWith_step (v : Json) (path : String) :
    resolveWith (fun name => step name v) path = get v path := by
  rw [resolveWith, get]
  cases h : segments path with
  | nil => exact absurd h (segments_ne_nil path)
  | cons head rest => rfl

theorem resolveWith_entries (entries : Dictionary Json) (path : String) :
    resolveWith (fun name => entries.get? name) path = get (.object entries) path :=
  resolveWith_step (.object entries) path

end Path

namespace Scope

variable {s : Scope} {d layer : Dictionary Json} {layers : List (Dictionary Json)}

/-- One object stands for a scope: a name means the same in both. -/
def StandsFor (d : Dictionary Json) (s : Scope) : Prop := ∀ name, s.lookup name = d.get? name

theorem StandsFor.resolve (h : StandsFor d s) (path : String) :
    s.resolve path = Path.get (.object d) path := by
  have same : s.lookup = fun name => d.get? name := funext h
  rw [Scope.resolve, same, Path.resolveWith_entries]

theorem standsFor_root (page : Json) : StandsFor (page.asObject?.getD []) (root page) := by
  intro name
  cases page <;> rfl

theorem StandsFor.push (h : StandsFor d s) (hl : layer.Sorted) :
    StandsFor (d.overlay layer) (s.push layer) := by
  intro name
  rw [lookup_push, Dictionary.get?_overlay name d hl, h name]

theorem StandsFor.pushAll (h : StandsFor d s) (hl : ∀ layer ∈ layers, layer.Sorted) :
    StandsFor (layers.foldl Dictionary.overlay d) (layers.foldl Scope.push s) := by
  induction layers generalizing s d with
  | nil => exact h
  | cons layer rest ih =>
      have top : layer.Sorted := hl layer (List.mem_cons_self ..)
      have below : ∀ l ∈ rest, l.Sorted := fun l hm => hl l (List.mem_cons_of_mem _ hm)
      exact ih (h.push top) below

/-- The entries of a page, if it is an object, overwritten by those of layers, the outermost first. -/
def merged (page : Json) (layers : List (Dictionary Json)) : Dictionary Json :=
  layers.foldl Dictionary.overlay (page.asObject?.getD [])

theorem resolveIn_object (page : Json) (vars : Dictionary Json) (path : String) :
    resolveIn page (.object vars) path = ((root page).push vars).resolve path := by
  have same : (fun name => ((Json.object vars).field? name).or (page.field? name))
      = ((root page).push vars).lookup := by
    funext name
    rw [lookup_push, lookup_root, Json.field?]
  rw [resolveIn, same, Scope.resolve]

theorem resolveIn_of_not_object (page : Json) {context : Json} (h : context.asObject? = none)
    (path : String) : resolveIn page context path = (root page).resolve path := by
  have same : (fun name => (context.field? name).or (page.field? name)) = (root page).lookup := by
    funext name
    have none : context.field? name = none := by
      cases context with
      | object vars => cases h
      | _ => rfl
    rw [none, Option.none_or, lookup_root]
  rw [resolveIn, same, Scope.resolve]

theorem resolve_merged (page : Json) (layers : List (Dictionary Json))
    (hl : ∀ layer ∈ layers, layer.Sorted) (path : String) :
    (layers.foldl push (root page)).resolve path = Path.get (.object (merged page layers)) path ∧
    (∀ vars, resolveIn page (.object vars) path = ((root page).push vars).resolve path) ∧
    (∀ context : Json, context.asObject? = none →
      resolveIn page context path = (root page).resolve path) := by
  have stands : StandsFor (merged page layers) (layers.foldl push (root page)) :=
    (standsFor_root page).pushAll hl
  exact ⟨stands.resolve path, fun vars => resolveIn_object page vars path,
    fun _ h => resolveIn_of_not_object page h path⟩

def shadowingLayers : List (Dictionary Json) :=
  [[("index", .ofNat 0), ("item", .object [("tags", .array [.string "new"])])], [("item", .null)]]

theorem resolve_merged_shadowingLayers :
    (∀ layer ∈ shadowingLayers, layer.Sorted) ∧
    Path.get (.object (merged (.object [("item", .string "mug")]) shadowingLayers)) "item" = some .null ∧
    Json.asObject? (.string "item") = none ∧
    resolveIn (.object [("item", .string "mug")]) (.string "item") "item" = some (.string "mug") := by
  have sorted : ∀ layer ∈ shadowingLayers, layer.Sorted := by
    intro layer h
    simp only [shadowingLayers, List.mem_cons, List.not_mem_nil, or_false] at h
    rcases h with rfl | rfl <;> (show List.Pairwise _ _; decide)
  obtain ⟨layered, -, plain⟩ :=
    resolve_merged (.object [("item", .string "mug")]) shadowingLayers sorted "item"
  exact ⟨sorted, layered.symm.trans rfl, rfl, (plain (.string "item") rfl).trans rfl⟩

end Scope

end Storefront
