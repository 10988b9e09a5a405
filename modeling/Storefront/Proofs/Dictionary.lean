import Mathlib.Data.List.Nodup
import Storefront.Dictionary

namespace Storefront.Dictionary

variable {α : Type} {d e : Dictionary α} {key : String} {v : α}

theorem get?_eq_some_iff (h : d.keys.Nodup) : d.get? key = some v ↔ (key, v) ∈ d := by
  refine ⟨mem_of_get?_eq_some, fun hm => ?_⟩
  induction d with
  | nil => cases hm
  | cons entry rest ih =>
      obtain ⟨j, w⟩ := entry
      obtain ⟨fresh, later⟩ := List.nodup_cons.1 h
      rw [get?]
      rcases List.mem_cons.1 hm with hm | hm
      · cases hm
        exact if_pos rfl
      · have present : key ∈ keys rest := List.mem_map_of_mem hm
        have ne : j ≠ key := fun hj => fresh (hj ▸ present)
        rw [if_neg ne, ih later hm]

theorem nodup_keys_of_perm (h : d.Perm e) (hd : d.keys.Nodup) : e.keys.Nodup :=
  (h.map Prod.fst).nodup_iff.1 hd

theorem get?_of_perm (h : d.Perm e) (hd : d.keys.Nodup) (key : String) : d.get? key = e.get? key := by
  apply Option.ext
  intro v
  rw [get?_eq_some_iff hd, get?_eq_some_iff (nodup_keys_of_perm h hd), h.mem_iff]

theorem mem_of_mem_insert {entry : String × α} (h : entry ∈ insert key v d) : entry = (key, v) ∨ entry ∈ d := by
  induction d with
  | nil => exact .inl (List.mem_singleton.1 h)
  | cons first rest ih =>
      obtain ⟨j, w⟩ := first
      rw [insert] at h
      split at h
      · exact (List.mem_cons.1 h).imp_right (List.mem_cons_of_mem _)
      · split at h
        · exact List.mem_cons.1 h
        · rcases List.mem_cons.1 h with h | h
          · exact .inr (h ▸ List.mem_cons_self ..)
          · exact (ih h).imp_right (List.mem_cons_of_mem _)

theorem mem_of_mem_overlay {below above : Dictionary α} {entry : String × α}
    (h : entry ∈ below.overlay above) : entry ∈ below ∨ entry ∈ above := by
  induction above generalizing below with
  | nil => exact .inl h
  | cons top rest ih =>
      rcases ih h with h | h
      · rcases mem_of_mem_insert h with rfl | h
        · exact .inr (List.mem_cons_self ..)
        · exact .inl h
      · exact .inr (List.mem_cons_of_mem _ h)

theorem Sorted.ext (hd : d.Sorted) (he : e.Sorted) (h : ∀ key, d.get? key = e.get? key) : d = e := by
  have entries : d.Perm e := by
    rw [List.perm_ext_iff_of_nodup hd.nodup_keys.of_map he.nodup_keys.of_map]
    rintro ⟨key, v⟩
    rw [← get?_eq_some_iff hd.nodup_keys, h key, get?_eq_some_iff he.nodup_keys]
  have asymm (x y : String × α) (hxy : x.1 < y.1) (hyx : y.1 < x.1) : x = y :=
    absurd (String.lt_trans hxy hyx) (String.lt_irrefl x.1)
  exact entries.eq_of_pairwise (fun x y _ _ => asymm x y) (List.pairwise_map.1 hd) (List.pairwise_map.1 he)

theorem get?_overlay_reverse (key : String) (below above : Dictionary α) :
    get? key (below.overlay above) = (get? key above.reverse).or (get? key below) := by
  induction above generalizing below with
  | nil => rfl
  | cons entry rest ih =>
      have step : get? key (below.overlay (entry :: rest))
          = (get? key rest.reverse).or (get? key (insert entry.1 entry.2 below)) := ih (insert entry.1 entry.2 below)
      rw [step, get?_insert, List.reverse_cons, get?_append, Option.or_assoc, get?, get?_nil]
      by_cases h : entry.1 = key <;> simp [h]

theorem mem_keys_overlay {below above : Dictionary α} :
    key ∈ (below.overlay above).keys ↔ key ∈ above.keys ∨ key ∈ below.keys := by
  induction above generalizing below with
  | nil => simp [overlay, keys]
  | cons entry rest ih =>
      have step : key ∈ (below.overlay (entry :: rest)).keys
          ↔ key ∈ keys rest ∨ key ∈ (insert entry.1 entry.2 below).keys := ih
      rw [step, mem_keys_insert, keys, keys, keys, List.map_cons, List.mem_cons, or_left_comm, or_assoc]

theorem Sorted.getElem?_of_get? (h : d.Sorted) (hk : d.get? key = some v) :
    d[(d.keys.filter (· < key)).length]? = some (key, v) := by
  induction d with
  | nil => cases hk
  | cons entry rest ih =>
      obtain ⟨j, w⟩ := entry
      obtain ⟨first, later⟩ := List.pairwise_cons.1 h
      rw [get?] at hk
      by_cases hj : j = key
      · rw [if_pos hj] at hk
        have none_below : (keys ((j, w) :: rest)).filter (· < key) = [] := by
          rw [List.filter_eq_nil_iff]
          intro k listed below
          have below : k < key := of_decide_eq_true below
          rcases List.mem_cons.1 listed with rfl | listed
          · exact String.lt_irrefl _ (hj ▸ below)
          · exact String.lt_irrefl k (String.lt_trans (hj ▸ below) (first k listed))
        rw [none_below, hj, Option.some.inj hk]
        rfl
      · rw [if_neg hj] at hk
        have behind : j < key := first key (List.mem_map_of_mem (mem_of_get?_eq_some hk))
        have counted : (keys ((j, w) :: rest)).filter (· < key) = j :: (keys rest).filter (· < key) :=
          List.filter_cons_of_pos (decide_eq_true behind)
        rw [counted, List.length_cons, List.getElem?_cons_succ]
        exact ih later hk

section Halving

variable {table : Array (String × α)} {i j low high : Nat} {k l : String} {w : α}

theorem key_lt_of_index_lt (sorted : Sorted table.toList) (hi : table[i]? = some (k, v))
    (hj : table[j]? = some (l, w)) (h : i < j) : k < l := by
  obtain ⟨hi, ei⟩ := Array.getElem?_eq_some_iff.1 hi
  obtain ⟨hj, ej⟩ := Array.getElem?_eq_some_iff.1 hj
  have increasing := List.pairwise_iff_getElem.1 (List.pairwise_map.1 sorted) i j hi hj h
  simpa [ei, ej] using increasing

theorem index_lt_iff (sorted : Sorted table.toList) (hi : table[i]? = some (k, v))
    (hj : table[j]? = some (l, w)) : i < j ↔ k < l := by
  refine ⟨key_lt_of_index_lt sorted hi hj, fun h => ?_⟩
  rcases Nat.lt_trichotomy i j with hij | rfl | hji
  · exact hij
  · cases hi.symm.trans hj
    exact absurd h (String.lt_irrefl k)
  · exact absurd (String.lt_trans h (key_lt_of_index_lt sorted hj hi hji)) (String.lt_irrefl k)

theorem bisect_of_le (table : Array (String × α)) (key : String) (h : high ≤ low) :
    bisect table key low high = none := by
  rw [bisect, if_neg (Nat.not_lt.2 h)]

theorem bisect_of_getElem? (key : String) (h : low < high) (here : table[(low + high) / 2]? = some (k, w)) :
    bisect table key low high =
      if k = key then some w
      else if k < key then bisect table key ((low + high) / 2 + 1) high
      else bisect table key low ((low + high) / 2) := by
  rw [bisect, if_pos h]
  simp only [here]

theorem halving_induction {P : Nat → Nat → Prop} (empty : ∀ low high, high ≤ low → P low high)
    (halves : ∀ low high, low < high → P low ((low + high) / 2) → P ((low + high) / 2 + 1) high → P low high)
    (low high : Nat) : P low high :=
  if h : low < high then
    halves low high h (halving_induction empty halves low _) (halving_induction empty halves _ high)
  else empty low high (Nat.not_lt.1 h)
termination_by high - low

theorem bisect_eq_some_iff (sorted : Sorted table.toList) (hhigh : high ≤ table.size) :
    bisect table key low high = some v ↔ ∃ i, low ≤ i ∧ i < high ∧ table[i]? = some (key, v) := by
  induction low, high using halving_induction with
  | empty low high h =>
      rw [bisect_of_le table key h]
      constructor
      · nofun
      · rintro ⟨i, hlow, hi, -⟩
        omega
  | halves low high h below above =>
      have inside : (low + high) / 2 < table.size := by omega
      obtain ⟨⟨k, w⟩, hmiddle⟩ : ∃ e, table[(low + high) / 2]? = some e := ⟨_, Array.getElem?_eq_getElem inside⟩
      rw [bisect_of_getElem? key h hmiddle]
      by_cases found : k = key
      · subst found
        rw [if_pos rfl]
        constructor
        · rintro ⟨⟩
          exact ⟨_, by omega, by omega, hmiddle⟩
        · rintro ⟨i, -, -, hi⟩
          have before := (index_lt_iff sorted hi hmiddle).not.2 (String.lt_irrefl k)
          have behind := (index_lt_iff sorted hmiddle hi).not.2 (String.lt_irrefl k)
          obtain rfl : i = (low + high) / 2 := by omega
          cases hi.symm.trans hmiddle
          rfl
      rw [if_neg found]
      by_cases less : k < key
      · rw [if_pos less, above hhigh]
        constructor
        · rintro ⟨i, hlow, hi⟩
          exact ⟨i, by omega, hi⟩
        · rintro ⟨i, -, hi, entry⟩
          have behind := (index_lt_iff sorted hmiddle entry).2 less
          exact ⟨i, behind, hi, entry⟩
      · rw [if_neg less, below (by omega)]
        constructor
        · rintro ⟨i, hlow, hi, entry⟩
          exact ⟨i, hlow, by omega, entry⟩
        · rintro ⟨i, hlow, -, entry⟩
          have greater : key < k := Std.lt_of_le_of_ne (String.not_lt.1 less) (Ne.symm found)
          exact ⟨i, hlow, (index_lt_iff sorted entry hmiddle).2 greater, entry⟩

theorem bisect_eq_some_iff_mem (sorted : Sorted table.toList) :
    bisect table key 0 table.size = some v ↔ (key, v) ∈ table := by
  rw [bisect_eq_some_iff sorted (Nat.le_refl _), Array.mem_iff_getElem?]
  constructor
  · rintro ⟨i, -, -, hi⟩
    exact ⟨i, hi⟩
  · rintro ⟨i, hi⟩
    obtain ⟨inside, -⟩ := Array.getElem?_eq_some_iff.1 hi
    exact ⟨i, Nat.zero_le i, inside, hi⟩

end Halving

end Storefront.Dictionary
