import Storefront.Block.Reader
import Storefront.Proofs.Json.Record

namespace Storefront

namespace Json

def readable {α : Type} (read : Json → Except Malformed α) : Json → List α
  | .array items => items.filterMap fun v => (read v).toOption
  | _ => []

theorem toOption_eq_some {α : Type} {r : Except Malformed α} {a : α} :
    r.toOption = some a ↔ r = .ok a := by
  cases r <;> simp [Except.toOption]

theorem Reading.result_list {α : Type} (read : Json → Except Malformed α) (v : Json) :
    (Reading.list read v).result = v.readable read := by
  cases v with
  | array items => exact result_list_array read items
  | _ => rfl

theorem Reading.result_cons {α : Type} (entry : Reading (Except Malformed α)) (rest : Reading (List α)) :
    (cons entry rest).result = entry.result.toOption.toList ++ rest.result := by
  rw [cons]
  cases entry.result <;> rfl

end Json

namespace Block

open Json (Reading)

theorem result_readAll (items : List Json) :
    (readAll items).result = items.filterMap fun v => (ofJson v).toOption := by
  induction items with
  | nil => rw [readAll, List.filterMap_nil]
  | cons v rest ih =>
      rw [readAll, Reading.result_cons, ih, List.filterMap_cons, ofJson]
      cases (read v).result <;> rfl

theorem result_readList (v : Json) : (readList v).result = v.readable ofJson := by
  cases v with
  | array items => rw [readList, result_readAll, Json.readable]
  | _ =>
      rw [readList, Json.readable]
      all_goals
        intro items h
        cases h

def ofLookup (look : String → Option Json) : Block where
  id := (look "id").bind Json.scalarText?
  type := (look "type").bind Json.scalarText?
  wrapper := (look "wrapper").bind Json.scalarText?
  style := (look "style").bind Json.asObject?
  bindings := ((look "data_bindings").map Json.textEntries).getD []
  conditions := ((look "conditions").map (Json.readable Condition.ofJson)).getD []
  events := ((look "events").map (Json.readable Event.ofJson)).getD []
  children := ((look "children").map (Json.readable ofJson)).getD []
  blocks := ((look "blocks").map (Json.readable ofJson)).getD []

def withField (name : String) (value : Json) (b : Block) : Block where
  id := if name = "id" then value.scalarText? else b.id
  type := if name = "type" then value.scalarText? else b.type
  wrapper := if name = "wrapper" then value.scalarText? else b.wrapper
  style := if name = "style" then value.asObject? else b.style
  bindings := if name = "data_bindings" then value.textEntries else b.bindings
  conditions := if name = "conditions" then value.readable Condition.ofJson else b.conditions
  events := if name = "events" then value.readable Event.ofJson else b.events
  children := if name = "children" then value.readable ofJson else b.children
  blocks := if name = "blocks" then value.readable ofJson else b.blocks

theorem ofLookup_cons (name : String) (value : Json) (rest : List (String × Json)) :
    (ofLookup fun field => Dictionary.get? field ((name, value) :: rest))
      = withField name value (ofLookup fun field => Dictionary.get? field rest) := by
  simp only [ofLookup, withField, Dictionary.get?, Block.mk.injEq]
  refine ⟨?_, ?_, ?_, ?_, ?_, ?_, ?_, ?_, ?_⟩ <;> split <;> rfl

theorem result_addField {name : String} (hc : name ≠ "children") (hb : name ≠ "blocks") (value : Json)
    (r : Reading Block) : (addField name value r).result = withField name value r.result := by
  unfold addField
  split
  case h_8 hid htype hwrapper hstyle hbindings hconditions hevents =>
    rw [withField, if_neg hid, if_neg htype, if_neg hwrapper, if_neg hstyle, if_neg hbindings,
      if_neg hconditions, if_neg hevents, if_neg hc, if_neg hb]
    cases r.result
    rfl
  all_goals simp [withField, Reading.map, Reading.result_list]

theorem result_ofFields_cons (name : String) (value : Json) (rest : List (String × Json)) :
    (ofFields ((name, value) :: rest)).result = withField name value (ofFields rest).result := by
  rw [ofFields]
  split
  · rename_i hc
    subst hc
    simp [addChildren, withField, result_readList]
  · rename_i hc
    split
    · rename_i hb
      subst hb
      simp [addBlocks, withField, result_readList]
    · rename_i hb
      exact result_addField hc hb value _

theorem result_ofFields (fields : List (String × Json)) :
    (ofFields fields).result = ofLookup fun name => Dictionary.get? name fields := by
  induction fields with
  | nil => rw [ofFields]; rfl
  | cons e rest ih =>
      obtain ⟨name, value⟩ := e
      rw [result_ofFields_cons, ofLookup_cons, ih]

theorem ofItems_eq_ofFields (names : List String) (items : List Json) :
    ofItems names items = ofFields (names.zip items) := by
  induction names generalizing items with
  | nil => cases items <;> rfl
  | cons name names ih =>
      cases items with
      | nil => rfl
      | cons value rest => rw [ofItems, ih, List.zip_cons_cons, ofFields]

theorem ofJson_object {entries : List (String × Json)} (h : (Dictionary.keys entries).Nodup) :
    ofJson (.object entries) = .ok (ofLookup fun name => Dictionary.get? name entries) := by
  have plain : shape.aliases = [] := rfl
  obtain ⟨fields, hf⟩ := Json.Shape.exists_named_of_no_aliases plain h
  rw [ofJson, read, hf]
  exact congrArg Except.ok (result_ofFields entries)

def fieldsOf : Json → List (String × Json)
  | .object entries => entries
  | .array items => shape.fields.zip items
  | _ => []

theorem snd_mem_parts_of_mem_fieldsOf {v : Json} {e : String × Json} (h : e ∈ fieldsOf v) :
    e.2 ∈ v.parts := by
  cases v with
  | object entries => exact List.mem_map_of_mem h
  | array items => exact (List.of_mem_zip h).2
  | _ => cases h

theorem ofJson_array {items : List Json} (h : items.length ≤ shape.fields.length) :
    ofJson (.array items) = .ok (ofLookup fun name => Dictionary.get? name (shape.fields.zip items)) := by
  rw [ofJson, read, if_pos h, ← result_ofFields, ← ofItems_eq_ofFields]
  rfl

theorem eq_ofLookup_of_ofJson {v : Json} {b : Block} (h : ofJson v = .ok b) :
    b = ofLookup fun name => Dictionary.get? name (fieldsOf v) := by
  cases v with
  | object entries =>
      rw [ofJson, read] at h
      split at h
      · rw [fieldsOf, ← result_ofFields]
        exact (Except.ok.inj h).symm
      · cases h
  | array items =>
      by_cases hl : items.length ≤ shape.fields.length
      · rw [ofJson_array hl] at h
        exact (Except.ok.inj h).symm
      · rw [ofJson, read, if_neg hl] at h
        cases h
  | _ => cases h

end Block

end Storefront
