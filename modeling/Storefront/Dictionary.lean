namespace Storefront

abbrev Dictionary (α : Type) := List (String × α)

namespace Dictionary

variable {α β : Type}

def get? (key : String) : Dictionary α → Option α
  | [] => none
  | (k, v) :: rest => if k = key then some v else get? key rest

def insert (key : String) (value : α) : Dictionary α → Dictionary α
  | [] => [(key, value)]
  | (k, v) :: rest =>
      if key = k then (key, value) :: rest
      else if key < k then (key, value) :: (k, v) :: rest
      else (k, v) :: insert key value rest

def ofList (entries : List (String × α)) : Dictionary α :=
  entries.foldl (fun d e => insert e.1 e.2 d) []

def overlay (below above : Dictionary α) : Dictionary α :=
  above.foldl (fun d e => insert e.1 e.2 d) below

def bisect (table : Array (String × α)) (key : String) (low high : Nat) : Option α :=
  if low < high then
    let middle := (low + high) / 2
    match table[middle]? with
    | none => none
    | some (k, v) =>
        if k = key then some v
        else if k < key then bisect table key (middle + 1) high
        else bisect table key low middle
  else none
termination_by high - low

def keys (d : Dictionary α) : List String := d.map Prod.fst

def Sorted (d : Dictionary α) : Prop := d.keys.Pairwise (· < ·)

@[simp] theorem get?_nil (key : String) : get? key ([] : Dictionary α) = none := rfl

theorem get?_insert (key k : String) (value : α) (d : Dictionary α) :
    get? k (insert key value d) = if key = k then some value else get? k d := by
  induction d with
  | nil => rfl
  | cons e rest ih =>
      obtain ⟨j, v⟩ := e
      simp only [insert]
      by_cases hj : key = j
      · subst hj
        by_cases hk : key = k <;> simp [get?, hk]
      · by_cases hlt : key < j
        · simp [hj, hlt, get?]
        · by_cases hk : j = k
          · subst hk; simp [hj, hlt, get?]
          · simp [hj, hlt, get?, hk, ih]

theorem mem_keys_insert {key k : String} {value : α} {d : Dictionary α} :
    k ∈ (insert key value d).keys ↔ k = key ∨ k ∈ d.keys := by
  induction d with
  | nil => simp [insert, keys]
  | cons e rest ih =>
      obtain ⟨j, v⟩ := e
      simp only [keys] at ih ⊢
      simp only [insert]
      by_cases hj : key = j
      · subst hj; simp
      · by_cases hlt : key < j
        · simp [hj, hlt]
        · simp only [hj, hlt, if_false, List.map_cons, List.mem_cons, ih]
          exact or_left_comm

theorem sorted_insert {d : Dictionary α} (key : String) (value : α) (h : d.Sorted) :
    (insert key value d).Sorted := by
  induction d with
  | nil => simp [insert, Sorted, keys]
  | cons e rest ih =>
      obtain ⟨j, v⟩ := e
      obtain ⟨first, later⟩ := List.pairwise_cons.1 h
      simp only [insert]
      by_cases hj : key = j
      · subst hj
        rw [if_pos rfl]
        exact List.pairwise_cons.2 ⟨first, later⟩
      · by_cases hlt : key < j
        · simp only [hj, hlt, if_true, if_false]
          refine List.pairwise_cons.2 ⟨fun k hk => ?_, h⟩
          rcases List.mem_cons.1 hk with rfl | hk
          · exact hlt
          · exact String.lt_trans hlt (first k hk)
        · simp only [hj, hlt, if_false]
          refine List.pairwise_cons.2 ⟨fun k hk => ?_, ih later⟩
          rcases mem_keys_insert.1 hk with rfl | hk
          · exact Std.lt_of_le_of_ne (String.not_lt.1 hlt) (Ne.symm hj)
          · exact first k hk

theorem sorted_overlay {below : Dictionary α} (above : Dictionary α) (h : below.Sorted) :
    (below.overlay above).Sorted := by
  induction above generalizing below with
  | nil => exact h
  | cons e rest ih => exact ih (sorted_insert e.1 e.2 h)

theorem get?_eq_none {key : String} {d : Dictionary α} (h : key ∉ d.keys) : get? key d = none := by
  induction d with
  | nil => rfl
  | cons e rest ih =>
      obtain ⟨j, v⟩ := e
      simp only [keys, List.map_cons, List.mem_cons, not_or] at h
      rw [get?, if_neg (Ne.symm h.1)]
      exact ih h.2

theorem get?_append (key : String) (a b : Dictionary α) :
    get? key (a ++ b) = (get? key a).or (get? key b) := by
  induction a with
  | nil => rfl
  | cons e rest ih =>
      obtain ⟨j, v⟩ := e
      by_cases hj : j = key <;> simp [get?, hj, ih]

theorem get?_mapValues (f : α → β) (key : String) (d : Dictionary α) :
    get? key (d.map fun e => (e.1, f e.2)) = (get? key d).map f := by
  induction d with
  | nil => rfl
  | cons e rest ih =>
      obtain ⟨j, v⟩ := e
      by_cases hj : j = key <;> simp [get?, hj, ih]

theorem mem_of_get?_eq_some {key : String} {v : α} {d : Dictionary α} (h : get? key d = some v) :
    (key, v) ∈ d := by
  induction d with
  | nil => cases h
  | cons e rest ih =>
      obtain ⟨j, w⟩ := e
      rw [get?] at h
      split at h
      · rename_i hj
        cases h
        rw [hj]
        exact List.mem_cons_self ..
      · exact List.mem_cons_of_mem _ (ih h)

theorem Sorted.nodup_keys {d : Dictionary α} (h : d.Sorted) : d.keys.Nodup := by
  apply List.Pairwise.imp _ h
  intro j k hlt heq
  subst heq
  exact String.lt_irrefl j hlt

theorem get?_overlay_of_nodup {above : Dictionary α} (key : String) (below : Dictionary α)
    (h : above.keys.Nodup) : get? key (below.overlay above) = (get? key above).or (get? key below) := by
  induction above generalizing below with
  | nil => rfl
  | cons e rest ih =>
      obtain ⟨j, v⟩ := e
      obtain ⟨fresh, later⟩ := List.nodup_cons.1 h
      have step : get? key (below.overlay ((j, v) :: rest))
          = (get? key rest).or (get? key (insert j v below)) := ih (insert j v below) later
      rw [step, get?_insert, get?]
      by_cases hj : j = key
      · have absent : get? key rest = none := get?_eq_none (hj ▸ fresh)
        simp [hj, absent]
      · simp [hj]

theorem get?_overlay {above : Dictionary α} (key : String) (below : Dictionary α)
    (h : above.Sorted) : get? key (below.overlay above) = (get? key above).or (get? key below) :=
  get?_overlay_of_nodup key below h.nodup_keys

theorem get?_ofList {entries : List (String × α)} (h : (keys entries).Nodup) (key : String) :
    get? key (ofList entries) = get? key entries := by
  rw [ofList, ← overlay, get?_overlay_of_nodup key [] h, get?_nil, Option.or_none]

theorem insert_eq_append {key : String} {value : α} {d : Dictionary α} (h : ∀ k ∈ d.keys, k < key) :
    insert key value d = d ++ [(key, value)] := by
  induction d with
  | nil => rfl
  | cons e rest ih =>
      obtain ⟨j, v⟩ := e
      have before : j < key := h j (List.mem_cons_self ..)
      have ne : key ≠ j := fun heq => String.lt_irrefl j (heq ▸ before)
      have notLt : ¬ key < j := fun hlt => String.lt_irrefl j (String.lt_trans before hlt)
      rw [insert, if_neg ne, if_neg notLt, ih fun k hk => h k (List.mem_cons_of_mem _ hk),
        List.cons_append]

theorem overlay_eq_append {below above : Dictionary α} (h : Sorted (below ++ above)) :
    below.overlay above = below ++ above := by
  induction above generalizing below with
  | nil => rw [overlay, List.foldl_nil, List.append_nil]
  | cons e rest ih =>
      obtain ⟨j, v⟩ := e
      have last : insert j v below = below ++ [(j, v)] := by
        apply insert_eq_append
        intro k hk
        have apart := h
        rw [Sorted, keys, List.map_append, List.pairwise_append] at apart
        exact apart.2.2 k hk j (List.mem_cons_self ..)
      rw [overlay, List.foldl_cons, ← overlay, last, ih (by simpa using h), List.append_assoc,
        List.singleton_append]

theorem ofList_of_sorted {d : Dictionary α} (h : d.Sorted) : ofList d = d := by
  have whole : Sorted ([] ++ d) := h
  exact overlay_eq_append whole

theorem sorted_ofList (entries : List (String × α)) : (ofList entries).Sorted :=
  sorted_overlay entries List.Pairwise.nil

end Dictionary

end Storefront
