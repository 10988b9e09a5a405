import Storefront.Block.Writer
import Storefront.Proofs.Block.Canonical

namespace Storefront

theorem Json.canonical_triple {first second x y : String} {value : Option Json} (hfirst : first < second)
    (hsecond : second < "value") (hv : ∀ w, value = some w → w.Canonical) :
    (Json.object ([(first, .string x), (second, .string y)]
      ++ (value.map fun w => ("value", w)).toList)).Canonical := by
  have text (s : String) : (Json.string s).Canonical := rfl
  rw [Json.canonical_object_iff]
  cases value with
  | none =>
      constructor
      · exact List.pairwise_pair.2 hfirst
      · simp [text]
  | some w =>
      have before : ∀ name ∈ [second, "value"], first < name := by
        rw [List.forall_mem_cons, List.forall_mem_singleton]
        exact ⟨hfirst, String.lt_trans hfirst hsecond⟩
      constructor
      · exact List.pairwise_cons.2 ⟨before, List.pairwise_pair.2 hsecond⟩
      · simp [text, hv w rfl]

def Json.listed : List Json → Option Json
  | [] => none
  | items => some (.array items)

theorem Json.readable_listed {α : Type} {read : Json → Except Json.Malformed α} {write : α → Json}
    {as : List α} (h : ∀ a ∈ as, read (write a).sorted = .ok a) :
    (((Json.listed (as.map write)).map Json.sorted).map (Json.readable read)).getD [] = as := by
  have whole : as.filterMap (fun a => (read (write a).sorted).toOption) = as := by
    induction as with
    | nil => rfl
    | cons a rest ih =>
        rw [List.filterMap_cons, h a (List.mem_cons_self ..)]
        exact congrArg (a :: ·) (ih fun b hb => h b (List.mem_cons_of_mem _ hb))
  cases as with
  | nil => rfl
  | cons a rest =>
      have present : Json.listed ((a :: rest).map write) = some (.array ((a :: rest).map write)) := rfl
      rw [present, Option.map_some, Option.map_some, Option.getD_some, Json.sorted_array, Json.readable,
        List.filterMap_map, List.filterMap_map]
      exact whole

def Dictionary.ofFields {α : Type} (names : List String) (look : String → Option α) : Dictionary α :=
  names.flatMap fun name => ((look name).map fun v => (name, v)).toList

theorem Dictionary.keys_ofFields_sublist {α : Type} (names : List String) (look : String → Option α) :
    (ofFields names look).keys.Sublist names := by
  induction names with
  | nil => exact List.Sublist.refl _
  | cons name rest ih =>
      rw [ofFields, List.flatMap_cons]
      cases look name with
      | none => exact ih.cons name
      | some v => exact ih.cons_cons name

theorem Dictionary.get?_ofFields {α : Type} (names : List String) (look : String → Option α) (key : String) :
    get? key (ofFields names look) = if key ∈ names then look key else none := by
  induction names with
  | nil => rfl
  | cons name rest ih =>
      rw [ofFields, List.flatMap_cons, get?_append, ← ofFields, ih]
      by_cases hk : name = key
      · subst hk
        cases h : look name <;> simp [get?]
      · have first : get? key ((look name).map fun v => (name, v)).toList = none := by
          cases look name <;> simp [get?, hk]
        simp [first, Ne.symm hk]

theorem Json.get?_sorted_ofFields {names : List String} (h : names.Nodup) (look : String → Option Json)
    (name : String) :
    Dictionary.get? name
      (Dictionary.ofList ((Dictionary.ofFields names look).map fun e => (e.1, e.2.sorted)))
      = if name ∈ names then (look name).map Json.sorted else none := by
  have distinct : (Dictionary.keys
      ((Dictionary.ofFields names look).map fun e => (e.1, e.2.sorted))).Nodup := by
    rw [Dictionary.keys_mapValues]
    exact h.sublist (Dictionary.keys_ofFields_sublist names look)
  rw [Dictionary.get?_ofList distinct, Dictionary.get?_mapValues, Dictionary.get?_ofFields]
  split <;> rfl

theorem Json.textEntries_sorted {d : Dictionary String} (h : d.Sorted) :
    (Json.object (d.map fun e => (e.1, .string e.2))).sorted.textEntries = d := by
  have canonical : (Json.object (d.map fun e => (e.1, .string e.2))).Canonical := by
    rw [Json.canonical_object_iff]
    constructor
    · rwa [Dictionary.Sorted, Dictionary.keys_mapValues]
    · intro e he
      obtain ⟨_, -, rfl⟩ := List.mem_map.1 he
      rfl
  rw [canonical, Json.textEntries, List.filterMap_map]
  exact List.filterMap_some

theorem Condition.Canonical.ofJson_toJson {c : Condition} (h : c.Canonical) :
    ofJson c.toJson.sorted = .ok c := by
  have canonical : c.toJson.Canonical := Json.canonical_triple (by decide) (by decide) h.value
  have named : ofJson c.toJson = .ok { c with op := Operator.ofName c.op.name } := by
    rw [toJson]
    obtain ⟨field, op, value⟩ := c
    cases value <;> rfl
  rw [canonical, named, h.op]

theorem Event.Canonical.ofJson_toJson {e : Event} (h : e.Canonical) : ofJson e.toJson.sorted = .ok e := by
  have canonical : e.toJson.Canonical := Json.canonical_triple (by decide) (by decide) h.value
  have named : ofJson e.toJson = .ok { e with action := Action.ofName e.action.name } := by
    rw [toJson]
    obtain ⟨action, target, value⟩ := e
    cases value <;> rfl
  rw [canonical, named, h.action]

namespace Block

def written (b : Block) : String → Option Json
  | "id" => b.id.map .string
  | "type" => b.type.map .string
  | "wrapper" => b.wrapper.map .string
  | "style" => b.style.map .object
  | "data_bindings" =>
      if b.bindings.isEmpty then none else some (.object (b.bindings.map fun e => (e.1, .string e.2)))
  | "conditions" => Json.listed (b.conditions.map Condition.toJson)
  | "events" => Json.listed (b.events.map Event.toJson)
  | "children" => Json.listed (b.children.map toJson)
  | "blocks" => Json.listed (b.blocks.map toJson)
  | _ => none

theorem written_eq_none {b : Block} {name : String} (h : name ∉ shape.fields) : b.written name = none := by
  rw [written]
  all_goals
    intro heq
    subst heq
    exact h (by decide)

theorem allToJson_eq_map (bs : List Block) : allToJson bs = bs.map toJson := by
  induction bs with
  | nil => rfl
  | cons b rest ih => rw [allToJson, ih, List.map_cons]

theorem listEntry_eq (name : String) (items : List Json) :
    listEntry name items = ((Json.listed items).map fun v => (name, v)).toList := by
  cases items <;> rfl

theorem toJson_eq (b : Block) : b.toJson = .object (Dictionary.ofFields shape.fields b.written) := by
  have text (name : String) (s : Option String) :
      textEntry name s = ((s.map Json.string).map fun v => (name, v)).toList := by
    rw [textEntry, Option.map_map]
    rfl
  obtain ⟨id, type, wrapper, style, bindings, conditions, events, children, blocks⟩ := b
  have bound : (if bindings.isEmpty then []
        else [("data_bindings", Json.object (bindings.map fun e => (e.1, .string e.2)))])
      = (Option.map (fun v => ("data_bindings", v)) (if bindings.isEmpty then none
          else some (Json.object (bindings.map fun e => (e.1, .string e.2))))).toList := by
    split <;> rfl
  have styled : (style.map fun style => ("style", Json.object style)).toList
      = ((style.map Json.object).map fun v => ("style", v)).toList := by
    rw [Option.map_map]
    rfl
  -- each part of the written list is now the part of one name
  rw [toJson, allToJson_eq_map, allToJson_eq_map]
  simp only [ownEntries, text, styled, bound, listEntry_eq, List.append_assoc]
  simp only [Dictionary.ofFields, shape, List.flatMap_cons, List.flatMap_nil, List.append_nil, written]

theorem ofLookup_written {b : Block} (h : b.Canonical)
    (nested : ∀ c ∈ b.nested, ofJson c.toJson.sorted = .ok c) :
    ofLookup (fun name => (b.written name).map Json.sorted) = b := by
  obtain ⟨style, bindings, conditions, events, -⟩ := h
  have text (s : Option String) : ((s.map Json.string).map Json.sorted).bind Json.scalarText? = s := by
    cases s <;> rfl
  have styled : ((b.style.map Json.object).map Json.sorted).bind Json.asObject? = b.style := by
    cases hs : b.style with
    | none => rfl
    | some entries => exact congrArg Json.asObject? (style entries hs)
  have bound : (((b.written "data_bindings").map Json.sorted).map Json.textEntries).getD [] = b.bindings := by
    rw [written]
    split
    · rename_i empty
      exact (List.isEmpty_iff.1 empty).symm
    · exact Json.textEntries_sorted bindings
  have tested := Json.readable_listed fun c hc => (conditions c hc).ofJson_toJson
  have used := Json.readable_listed fun e he => (events e he).ofJson_toJson
  have children := Json.readable_listed fun c hc => nested c (List.mem_append_left b.blocks hc)
  have blocks := Json.readable_listed fun c hc => nested c (List.mem_append_right b.children hc)
  obtain ⟨id, type, wrapper, _, _, _, _, _, _⟩ := b
  rw [ofLookup, Block.mk.injEq]
  exact ⟨text id, text type, text wrapper, styled, bound, tested, used, children, blocks⟩

theorem Canonical.ofJson_toJson {b : Block} (h : b.Canonical) : ofJson b.toJson.sorted = .ok b := by
  induction h with
  | @intro b style bindings conditions events nested ih =>
      have canonical : b.Canonical := ⟨style, bindings, conditions, events, nested⟩
      -- sorting moves the fields, but what is found under each name stays
      have names : shape.fields.Nodup := by decide
      rw [toJson_eq, Json.sorted_object, ofJson_object (Dictionary.sorted_ofList _).nodup_keys]
      simp only [Json.get?_sorted_ofFields names]
      have known : (fun name => if name ∈ shape.fields then (b.written name).map Json.sorted else none)
          = fun name => (b.written name).map Json.sorted := by
        funext name
        split
        · rfl
        · rename_i unknown
          rw [written_eq_none unknown, Option.map_none]
      rw [known, ofLookup_written canonical ih]

end Block

end Storefront
