import Storefront.Proofs.Dictionary
import Storefront.Proofs.Settings.Library
import Storefront.Settings.TreeLibrary

namespace Storefront.Settings

namespace Setting

def path (s : Setting) : KeyPath := { head := s.table, steps := [.key s.field] }

theorem eq_of_field {s s' : Setting} (h : s.field = s'.field) : s = s' := by
  cases s <;> cases s' <;> first | rfl | exact absurd h (by decide)

theorem ofText?_key (s : Setting) : KeyPath.ofText? s.key = some s.path := by
  cases s <;> decide +kernel

theorem ofText?_table (s : Setting) : KeyPath.ofText? s.table = some { head := s.table, steps := [] } := by
  cases s <;> decide +kernel

end Setting

namespace Tree

variable {t v below : Tree} {key k name : String} {s s' : Setting}

theorem onto_of_not_isTable (h : ¬ v.IsTable) (below : Tree) : v.onto below = v := by
  cases v with
  | scalar => rw [onto]
  | array => rw [onto]
  | table origin entries => exact absurd ⟨origin, entries, rfl⟩ h

theorem child?_overlay {entries : Dictionary Tree} (distinct : entries.keys.Nodup) (below : Tree) (k : String) :
    (overlay entries below).child? k
      = ((entries.get? k).map fun v => v.onto ((below.child? k).getD empty)).or (below.child? k) := by
  induction entries generalizing below with
  | nil => rw [overlay]; rfl
  | cons e rest ih =>
      obtain ⟨key, v⟩ := e
      obtain ⟨fresh, later⟩ := List.nodup_cons.1 distinct
      rw [overlay, ih later, child?_setChild, Dictionary.get?]
      by_cases h : key = k
      · have absent : Dictionary.get? k rest = none := Dictionary.get?_eq_none (h ▸ fresh)
        simp [h, absent]
      · simp [h]

theorem isTable_of_child? (h : t.child? key = some v) : t.IsTable := by
  cases t with
  | table origin entries => exact ⟨origin, entries, rfl⟩
  | _ => cases h

def at? (t : Tree) (s : Setting) : Option Tree := (t.child? s.table).bind fun below => below.child? s.field

theorem at?_eq (h : t.child? s.table = some below) : t.at? s = below.child? s.field := by
  rw [at?, h, Option.bind_some]

theorem find?_path (t : Tree) (s : Setting) : t.find? (.key s.path.head :: s.path.steps) = t.at? s := by
  simp [Setting.path, find?, at?]

def Sectioned (t : Tree) : Prop := ∀ s : Setting, ∃ below, t.child? s.table = some below ∧ below.IsTable

theorem sectioned_of_at? (h : ∀ s, (t.at? s).isSome) : t.Sectioned := by
  intro s
  obtain ⟨v, found⟩ := Option.isSome_iff_exists.1 (h s)
  obtain ⟨below, here, there⟩ := Option.bind_eq_some_iff.1 found
  exact ⟨below, here, isTable_of_child? there⟩

theorem put_path (t : Tree) (s : Setting) (v : Tree) : t.put s.path v =
    let below := (t.child? s.table).getD null
    t.setChild s.table (below.setChild s.field (v.onto ((below.child? s.field).getD empty))) := rfl

theorem at?_put (plain : ¬ v.IsTable) (t : Tree) (s s' : Setting) :
    (t.put s.path v).at? s' = if s = s' then some v else t.at? s' := by
  rw [put_path, at?, child?_setChild]
  by_cases same : s = s'
  · simp [same, child?_setChild, onto_of_not_isTable plain]
  · have fields : s.field ≠ s'.field := fun h => same (Setting.eq_of_field h)
    by_cases tables : s.table = s'.table
    · rw [if_pos tables, if_neg same, Option.bind_some, child?_setChild, if_neg fields, tables, at?]
      cases t.child? s'.table <;> rfl
    · rw [if_neg tables, if_neg same, at?]

end Tree

section Documents

variable {t : Tree} {name : String} {entries : List (String × Tree)} {document : Document} {s : Setting}

theorem IsNamedSection.exists_table {v : Tree} (h : IsNamedSection (name, v)) :
    ∃ origin entries, v = .table origin entries ∧ IsSection name entries := by
  cases v with
  | table origin entries => exact ⟨origin, entries, rfl, h⟩
  | _ => exact h.elim

theorem given?_cons (s : Setting) (name : String) (origin : Option String) (entries : List (String × Tree))
    (rest : Document) : given? s ((name, .table origin entries) :: rest)
      = if name = s.table then Dictionary.get? s.field entries else given? s rest := by
  rw [given?, Dictionary.get?]
  by_cases h : name = s.table <;> simp [h, given?]

theorem given?_eq_none (h : s.table ∉ Dictionary.keys document) : given? s document = none := by
  rw [given?, Dictionary.get?_eq_none h]

structure IsDistinct (document : Document) : Prop where
  sections : (Dictionary.keys document).Nodup
  entries : ∀ e ∈ document, ∀ origin entries, e.2 = .table origin entries → (Dictionary.keys entries).Nodup

theorem IsSection.at?_set (h : IsSection name entries) (distinct : (Dictionary.keys entries).Nodup) (t : Tree)
    (origin : Option String) (s : Setting) : (t.set name (.table origin entries)).at? s =
      if name = s.table then (Dictionary.get? s.field entries).or (t.at? s) else t.at? s := by
  obtain ⟨s₀, rfl⟩ := h.known
  have merged : t.set s₀.table (.table origin entries)
      = t.setChild s₀.table (Tree.overlay entries ((t.child? s₀.table).getD Tree.empty)) := by
    rw [Tree.set, s₀.ofText?_table, Option.getD_some, Tree.put, Tree.assign, Tree.onto]
  have below : ((t.child? s.table).getD Tree.empty).child? s.field = t.at? s := by
    rw [Tree.at?]
    cases t.child? s.table <;> rfl
  rw [merged, Tree.at?, Tree.child?_setChild]
  by_cases same : s₀.table = s.table
  · rw [if_pos same, if_pos same, Option.bind_some, Tree.child?_overlay distinct, same, below]
    cases listed : Dictionary.get? s.field entries with
    | none => rfl
    | some v =>
        have plain : ¬ v.IsTable := h.plain s same v listed
        rw [Option.map_some, Tree.onto_of_not_isTable plain]
  · rw [if_neg same, if_neg same, Tree.at?]

theorem at?_putDocument (sections : IsConfiguration document) (distinct : IsDistinct document) (t : Tree)
    (s : Setting) : (putDocument t document).at? s = (given? s document).or (t.at? s) := by
  induction document generalizing t with
  | nil => rfl
  | cons e rest ih =>
      obtain ⟨name, v⟩ := e
      rw [IsConfiguration, List.forall_mem_cons] at sections
      obtain ⟨origin, entries, rfl, formed⟩ := sections.1.exists_table
      obtain ⟨fresh, later⟩ := List.nodup_cons.1 distinct.sections
      have distinct_entries := distinct.entries _ List.mem_cons_self origin entries rfl
      have rest_distinct : IsDistinct rest :=
        ⟨later, fun e he => distinct.entries e (List.mem_cons_of_mem _ he)⟩
      have step : putDocument t ((name, .table origin entries) :: rest) =
          putDocument (t.set name (.table origin entries)) rest := rfl
      rw [step, ih sections.2 rest_distinct, formed.at?_set distinct_entries, given?_cons]
      by_cases same : name = s.table
      · -- A table stands in a document only once, so no later one gives a setting of this one.
        rw [if_pos same, if_pos same, given?_eq_none (same ▸ fresh), Option.none_or]
      · rw [if_neg same, if_neg same]

theorem exists_of_mem_ofEntries {origin : Option String} {values : List (String × Toml.Value)} {e : String × Tree}
    (h : e ∈ Tree.ofEntries origin values) : ∃ v, e.2 = Tree.ofValue origin v := by
  induction values with
  | nil => cases h
  | cons first rest ih =>
      rw [Tree.ofEntries] at h
      rcases List.mem_cons.1 h with rfl | h
      · exact ⟨first.2, rfl⟩
      · exact ih h

theorem isDistinct_documentOf {file : Option String} {content : String} (h : documentOf file content = .ok document) :
    IsDistinct document := by
  unfold documentOf at h
  split at h
  · rename_i values parsed
    obtain rfl := Except.ok.inj h
    refine ⟨(Dictionary.sorted_ofList _).nodup_keys, fun e he origin entries table => ?_⟩
    have listed : e ∈ Tree.ofEntries file values :=
      (Dictionary.mem_of_mem_overlay he).resolve_left List.not_mem_nil
    obtain ⟨v, value⟩ := exists_of_mem_ofEntries listed
    rw [value] at table
    cases v with
    | table inner =>
        rw [Tree.ofValue] at table
        cases table
        exact (Dictionary.sorted_ofList _).nodup_keys
    | _ => rw [Tree.ofValue] at table; cases table
  · split at h <;> cases h

end Documents

end Storefront.Settings
