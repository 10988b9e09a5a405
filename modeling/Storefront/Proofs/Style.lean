import Mathlib.Data.List.Chain
import Mathlib.Data.List.Pairwise
import Storefront.Proofs.Dictionary
import Storefront.Style

namespace Storefront

theorem Json.isNull_iff {v : Json} : v.isNull = true ↔ v = .null := by
  cases v <;> simp [isNull]

namespace Style

variable {style style' d : Dictionary Json} {s t k p : String} {v : Json}

section Table

def hyphenated (name : String) : String :=
  String.ofList (name.toList.map fun c => if c = '_' then '-' else c)

def underscored (property : String) : String :=
  String.ofList (property.toList.map fun c => if c = '-' then '_' else c)

theorem underscored_hyphenated (h : '-' ∉ s.toList) : underscored (hyphenated s) = s := by
  have back : ∀ c ∈ s.toList, ((fun c => if c = '-' then '_' else c) ∘ fun c => if c = '_' then '-' else c) c = c := by
    intro c hc
    have plain : c ≠ '-' := fun hyphen => h (hyphen ▸ hc)
    by_cases underscore : c = '_' <;> simp [underscore, plain]
  rw [underscored, hyphenated, String.toList_ofList, List.map_map, List.map_congr_left back]
  simp

theorem hyphenated_hyphenated (s : String) : hyphenated (hyphenated s) = hyphenated s := by
  rw [hyphenated, hyphenated, String.toList_ofList, List.map_map]
  congr 1
  apply List.map_congr_left
  intro c _
  by_cases underscore : c = '_' <;> simp [underscore]

theorem sorted_table : Dictionary.Sorted table.toList := by
  have ascending : (Dictionary.keys table.toList).IsChain (· < ·) := by decide +kernel
  exact List.isChain_iff_pairwise.1 ascending

theorem row_hyphenated (h : (s, p) ∈ table) : p = hyphenated s ∧ '-' ∉ s.toList := by
  have rows : ∀ e ∈ table, e.2 = hyphenated e.1 ∧ '-' ∉ e.1.toList := by decide +kernel
  exact rows _ h

theorem property?_eq_some_iff : property? s = some p ↔ (s, p) ∈ table :=
  Dictionary.bisect_eq_some_iff_mem sorted_table

def IsName (s : String) : Prop := ∃ p, (s, p) ∈ table

theorem property?_eq_none_iff : property? s = none ↔ ¬ IsName s := by
  simp [Option.eq_none_iff_forall_ne_some, property?_eq_some_iff, IsName]

theorem name_unique (hs : (s, p) ∈ table) (ht : (t, p) ∈ table) : s = t := by
  obtain ⟨hps, plain_s⟩ := row_hyphenated hs
  obtain ⟨hpt, plain_t⟩ := row_hyphenated ht
  rw [← underscored_hyphenated plain_s, ← underscored_hyphenated plain_t, ← hps, ← hpt]

theorem property_fixed (hs : (s, k) ∈ table) (hk : (k, p) ∈ table) : p = k := by
  have hks : k = hyphenated s := (row_hyphenated hs).1
  have hpk : p = hyphenated k := (row_hyphenated hk).1
  rw [hpk, hks, hyphenated_hyphenated]

end Table

section Passes

theorem mem_passed_iff : (k, v) ∈ passed style ↔ (k, v) ∈ style ∧ v ≠ .null ∧ ¬ IsName k := by
  rw [passed, List.mem_filter, ← property?_eq_none_iff, ne_eq, ← Json.isNull_iff]
  simp

theorem rename_eq_some_iff {e : String × Json} :
    (if v.isNull then none else (property? s).map fun p => (p, v)) = some e ↔
      v ≠ .null ∧ (s, e.1) ∈ table ∧ v = e.2 := by
  rw [ne_eq, ← Json.isNull_iff, ← property?_eq_some_iff]
  cases v.isNull with
  | true => simp
  | false => simp [Prod.ext_iff]

theorem mem_renamed_iff : (k, v) ∈ renamed style ↔ v ≠ .null ∧ ∃ s, (s, k) ∈ table ∧ (s, v) ∈ style := by
  simp only [renamed, List.mem_filterMap, Prod.exists, rename_eq_some_iff]
  constructor
  · rintro ⟨s, w, listed, some_value, row, rfl⟩
    exact ⟨some_value, s, row, listed⟩
  · rintro ⟨some_value, s, row, listed⟩
    exact ⟨s, v, listed, some_value, row, rfl⟩

theorem nodup_keys_passed (distinct : style.keys.Nodup) : (Dictionary.keys (passed style)).Nodup :=
  distinct.sublist (List.filter_sublist.map _)

theorem nodup_keys_renamed (distinct : style.keys.Nodup) : (Dictionary.keys (renamed style)).Nodup := by
  rw [Dictionary.keys, List.Nodup, List.pairwise_map, renamed, List.pairwise_filterMap]
  apply (List.pairwise_map.1 distinct).imp
  intro a b apart e he f hf same
  have row_a : (a.1, e.1) ∈ table := (rename_eq_some_iff.1 he).2.1
  have row_b : (b.1, f.1) ∈ table := (rename_eq_some_iff.1 hf).2.1
  exact apart (name_unique row_a (same ▸ row_b))

theorem get?_renamed_eq_some_iff (distinct : style.keys.Nodup) :
    Dictionary.get? k (renamed style) = some v ↔ v ≠ .null ∧ ∃ s, (s, k) ∈ table ∧ style.get? s = some v := by
  simp only [Dictionary.get?_eq_some_iff (nodup_keys_renamed distinct), Dictionary.get?_eq_some_iff distinct,
    mem_renamed_iff]

theorem get?_renamed_eq_none_iff (distinct : style.keys.Nodup) :
    Dictionary.get? k (renamed style) = none ↔ ∀ s v, (s, k) ∈ table → style.get? s = some v → v = .null := by
  simp only [Option.eq_none_iff_forall_ne_some, ne_eq, get?_renamed_eq_some_iff distinct]
  constructor
  · intro h s v row listed
    by_contra some_value
    exact h v ⟨some_value, s, row, listed⟩
  · rintro h v ⟨some_value, s, row, listed⟩
    exact some_value (h s v row listed)

theorem get?_passed_eq_some_iff (distinct : style.keys.Nodup) :
    Dictionary.get? k (passed style) = some v ↔ style.get? k = some v ∧ v ≠ .null ∧ ¬ IsName k := by
  rw [Dictionary.get?_eq_some_iff (nodup_keys_passed distinct), mem_passed_iff, Dictionary.get?_eq_some_iff distinct]

theorem get?_translate (distinct : style.keys.Nodup) (k : String) :
    (translate style).get? k = (Dictionary.get? k (renamed style)).or (Dictionary.get? k (passed style)) := by
  rw [translate, Dictionary.get?_overlay_of_nodup k _ (nodup_keys_renamed distinct),
    Dictionary.get?_ofList (nodup_keys_passed distinct)]

end Passes

section Translation

theorem get?_translate_eq_some_iff (distinct : style.keys.Nodup) :
    (translate style).get? k = some v ↔ v ≠ .null ∧
      ((∃ s, (s, k) ∈ table ∧ style.get? s = some v) ∨
        (¬ IsName k ∧ (∀ s w, (s, k) ∈ table → style.get? s = some w → w = .null) ∧ style.get? k = some v)) := by
  rw [get?_translate distinct, Option.or_eq_some_iff, get?_renamed_eq_some_iff distinct,
    get?_renamed_eq_none_iff distinct, get?_passed_eq_some_iff distinct]
  constructor
  · rintro (⟨some_value, named⟩ | ⟨unnamed, listed, some_value, not_name⟩)
    · exact ⟨some_value, .inl named⟩
    · exact ⟨some_value, .inr ⟨not_name, unnamed, listed⟩⟩
  · rintro ⟨some_value, named | ⟨not_name, unnamed, listed⟩⟩
    · exact .inl ⟨some_value, named⟩
    · exact .inr ⟨unnamed, listed, some_value, not_name⟩

theorem sorted_translate (style : Dictionary Json) : (translate style).Sorted :=
  Dictionary.sorted_overlay _ (Dictionary.sorted_ofList _)

theorem translate_of_perm (h : style'.Perm style) (distinct : style.keys.Nodup) :
    translate style' = translate style := by
  have distinct' : style'.keys.Nodup := Dictionary.nodup_keys_of_perm h.symm distinct
  apply (sorted_translate style').ext (sorted_translate style)
  intro k
  apply Option.ext
  intro v
  simp only [get?_translate_eq_some_iff distinct, get?_translate_eq_some_iff distinct',
    Dictionary.get?_of_perm h distinct']

theorem get?_translate_of_row (distinct : style.keys.Nodup) (row : (s, p) ∈ table)
    (listed : style.get? s = some v) (some_value : v ≠ .null) : (translate style).get? p = some v :=
  (get?_translate_eq_some_iff distinct).2 ⟨some_value, .inl ⟨s, row, listed⟩⟩

theorem get?_translate_of_not_name (distinct : style.keys.Nodup) (not_name : ¬ IsName k)
    (listed : style.get? k = some v) (some_value : v ≠ .null) :
    (translate style).get? k = some v ∨
      ∃ s w, (s, k) ∈ table ∧ style.get? s = some w ∧ w ≠ .null ∧ (translate style).get? k = some w := by
  by_cases displaced : ∃ s w, (s, k) ∈ table ∧ style.get? s = some w ∧ w ≠ .null
  · obtain ⟨s, w, row, listed', some_value'⟩ := displaced
    exact .inr ⟨s, w, row, listed', some_value', get?_translate_of_row distinct row listed' some_value'⟩
  · refine .inl ((get?_translate_eq_some_iff distinct).2 ⟨some_value, .inr ⟨not_name, ?_, listed⟩⟩)
    intro s w row listed'
    by_contra some_value'
    exact displaced ⟨s, w, row, listed', some_value'⟩

theorem translate_exact (distinct : style.keys.Nodup) :
    (∀ k v, (translate style).get? k = some v ↔ v ≠ .null ∧
      ((∃ s, (s, k) ∈ table ∧ style.get? s = some v) ∨
        (¬ IsName k ∧ (∀ s w, (s, k) ∈ table → style.get? s = some w → w = .null) ∧ style.get? k = some v))) ∧
    (∀ k v, style.get? k = some v → v ≠ .null →
      (∀ p, (k, p) ∈ table → (translate style).get? p = some v) ∧
      (¬ IsName k → (translate style).get? k = some v ∨
        ∃ s w, (s, k) ∈ table ∧ style.get? s = some w ∧ w ≠ .null ∧ (translate style).get? k = some w)) ∧
    (∀ k, (translate style).get? k ≠ some .null) ∧
    (∀ s t p, (s, p) ∈ table → (t, p) ∈ table → s = t) ∧
    (∀ s p, property? s = some p ↔ (s, p) ∈ table) ∧
    ∀ style', style'.Perm style → translate style' = translate style := by
  refine ⟨fun k v => get?_translate_eq_some_iff distinct, fun k v listed some_value => ⟨?_, ?_⟩, fun k null => ?_,
    fun s t p => name_unique, fun s p => property?_eq_some_iff, fun style' h => translate_of_perm h distinct⟩
  · exact fun p row => get?_translate_of_row distinct row listed some_value
  · exact fun not_name => get?_translate_of_not_name distinct not_name listed some_value
  · exact ((get?_translate_eq_some_iff distinct).1 null).1 rfl

def clashingStyle : Dictionary Json :=
  [("background-color", .string "red"), ("flex-wrap", .string "wrap"), ("flex_wrap", .null),
    ("color", .string "navy"), ("background_color", .string "blue"), ("shadow", .null)]

theorem translate_exact_clashingStyle :
    clashingStyle.keys.Nodup ∧
    (translate clashingStyle).get? "background-color" = some (.string "blue") ∧
    (translate clashingStyle).get? "flex-wrap" = some (.string "wrap") ∧
    (translate clashingStyle).get? "shadow" ≠ some .null ∧
    property? "flex_wrap" = some "flex-wrap" ∧
    translate clashingStyle.reverse = translate clashingStyle := by
  have distinct : clashingStyle.keys.Nodup := by decide
  have rows : ("background_color", "background-color") ∈ table ∧ ("flex_wrap", "flex-wrap") ∈ table := by
    decide +kernel
  obtain ⟨exact_value, kept, clean, unique, found, ordered⟩ := translate_exact distinct
  refine ⟨distinct, ?_, ?_, clean "shadow", (found _ _).2 rows.2, ordered _ (List.reverse_perm _)⟩
  · exact (kept "background_color" (.string "blue") rfl (by simp)).1 _ rows.1
  · have not_name : ¬ IsName "flex-wrap" := fun ⟨_, row⟩ => (row_hyphenated row).2 (by decide)
    refine (exact_value _ _).2 ⟨by simp, .inr ⟨not_name, fun s w row listed => ?_, rfl⟩⟩
    obtain rfl : s = "flex_wrap" := unique _ _ _ row rows.2
    exact (Option.some.inj listed).symm

/-- Sorted, without nulls, and each key that is a name stands for itself. -/
def Settled (d : Dictionary Json) : Prop :=
  d.Sorted ∧ ∀ e ∈ d, e.2 ≠ .null ∧ ∀ p, (e.1, p) ∈ table → p = e.1

theorem settled_translate (style : Dictionary Json) : Settled (translate style) := by
  refine ⟨sorted_translate style, ?_⟩
  rintro ⟨k, v⟩ h
  rcases Dictionary.mem_of_mem_overlay h with h | h
  · have below : (k, v) ∈ Dictionary.overlay [] (passed style) := h
    have listed : (k, v) ∈ passed style := (Dictionary.mem_of_mem_overlay below).resolve_left List.not_mem_nil
    obtain ⟨-, some_value, not_name⟩ := mem_passed_iff.1 listed
    exact ⟨some_value, fun p row => absurd ⟨p, row⟩ not_name⟩
  · obtain ⟨some_value, s, row, -⟩ := mem_renamed_iff.1 h
    exact ⟨some_value, fun p row' => property_fixed row row'⟩

theorem Settled.translate_eq (h : Settled d) : translate d = d := by
  obtain ⟨sorted, settled⟩ := h
  have distinct : d.keys.Nodup := sorted.nodup_keys
  apply (sorted_translate d).ext sorted
  intro k
  apply Option.ext
  intro v
  rw [get?_translate_eq_some_iff distinct]
  have settled {s w} (listed : d.get? s = some w) : w ≠ .null ∧ ∀ p, (s, p) ∈ table → p = s :=
    settled (s, w) (Dictionary.mem_of_get?_eq_some listed)
  constructor
  · rintro ⟨-, ⟨s, row, listed⟩ | ⟨-, -, listed⟩⟩
    · rwa [(settled listed).2 k row]
    · exact listed
  · intro listed
    obtain ⟨some_value, fixed⟩ := settled listed
    refine ⟨some_value, ?_⟩
    by_cases name : IsName k
    · obtain ⟨p, row⟩ := name
      exact .inl ⟨k, fixed p row ▸ row, listed⟩
    · refine .inr ⟨name, fun s w row listed' => ?_, listed⟩
      exact absurd ⟨k, (settled listed').2 k row ▸ row⟩ name

theorem translate_settles (style : Dictionary Json) :
    translate (translate style) = translate style ∧ ∀ d, translate d = d ↔ Settled d := by
  refine ⟨(settled_translate style).translate_eq, fun d => ⟨fun fixed => ?_, Settled.translate_eq⟩⟩
  rw [← fixed]
  exact settled_translate d

end Translation

end Style

end Storefront
