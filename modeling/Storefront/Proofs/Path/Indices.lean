import Storefront.Path

namespace Storefront.Path

variable {a b d s ds : List Char} {c : Char}

def IsNumeral (d : List Char) : Prop := d ≠ [] ∧ ∀ c ∈ d, c.isDigit = true

instance (d : List Char) : Decidable (IsNumeral d) :=
  decidable_of_iff (d ≠ [] ∧ d.all Char.isDigit = true) (by simp [IsNumeral])

theorem IsNumeral.notMem (h : IsNumeral d) (hc : c.isDigit = false) : c ∉ d := by
  intro hm
  rw [h.2 c hm] at hc
  contradiction

def HasIndex (s : List Char) : Prop := ∃ a d b, IsNumeral d ∧ s = a ++ '[' :: (d ++ ']' :: b)

theorem HasIndex.append_left (a : List Char) (h : HasIndex s) : HasIndex (a ++ s) := by
  obtain ⟨a', d, b, hd, rfl⟩ := h
  exact ⟨a ++ a', d, b, hd, (List.append_assoc ..).symm⟩

section Equations

theorem dotIndices_cons (hc : c ≠ '[') (rest : List Char) :
    dotIndices none (c :: rest) = c :: dotIndices none rest := by
  rw [dotIndices, if_neg hc]

theorem dotIndices_of_notMem (h : '[' ∉ a) (b : List Char) :
    dotIndices none (a ++ b) = a ++ dotIndices none b := by
  induction a with
  | nil => rfl
  | cons c rest ih =>
      rw [List.mem_cons, not_or] at h
      rw [List.cons_append, dotIndices_cons (Ne.symm h.1), ih h.2, List.cons_append]

theorem dotIndices_pending (hd : ∀ c ∈ d, c.isDigit = true) (hne : ds ≠ [] ∨ d ≠ []) (b : List Char) :
    dotIndices (some ds) (d ++ ']' :: b) = '.' :: (ds.reverse ++ (d ++ dotIndices none b)) := by
  induction d generalizing ds with
  | nil =>
      have some_digit : ds ≠ [] := by simpa using hne
      simp [dotIndices, some_digit]
  | cons c rest ih =>
      have digit : c.isDigit = true := hd c (List.mem_cons_self ..)
      have digits : ∀ e ∈ rest, e.isDigit = true := fun e he => hd e (List.mem_cons_of_mem _ he)
      rw [List.cons_append, dotIndices, if_pos digit, ih digits (.inl (by simp))]
      simp

theorem dotIndices_index (hd : IsNumeral d) (b : List Char) :
    dotIndices none ('[' :: (d ++ ']' :: b)) = '.' :: (d ++ dotIndices none b) := by
  rw [dotIndices, if_pos rfl, dotIndices_pending hd.2 (.inr hd.1), List.reverse_nil, List.nil_append]

theorem dotIndices_pending_of_ne
    (h : ∀ d b, (∀ c ∈ d, c.isDigit = true) → ds ≠ [] ∨ d ≠ [] → s ≠ d ++ ']' :: b) :
    dotIndices (some ds) s = '[' :: (ds.reverse ++ dotIndices none s) := by
  induction s generalizing ds with
  | nil => simp [dotIndices]
  | cons c rest ih =>
      by_cases digit : c.isDigit = true
      · have not_bracket : c ≠ '[' := by
          rintro rfl
          exact absurd digit (by decide)
        -- what would close the number after this digit would close it with the digit
        have unclosed : ∀ d b, (∀ e ∈ d, e.isDigit = true) → c :: ds ≠ [] ∨ d ≠ [] → rest ≠ d ++ ']' :: b := by
          rintro d b hd - rfl
          refine h (c :: d) b (fun e he => ?_) (.inr (by simp)) rfl
          rcases List.mem_cons.1 he with rfl | he
          · exact digit
          · exact hd e he
        rw [dotIndices_cons not_bracket, dotIndices, if_pos digit, ih unclosed]
        simp
      · by_cases bracket : c = '['
        · simp [dotIndices, bracket]
        · have unclosed : ¬ (c = ']' ∧ ds ≠ []) := by
            rintro ⟨rfl, some_digit⟩
            exact h [] rest (by simp) (.inl some_digit) rfl
          rw [dotIndices_cons bracket, dotIndices, if_neg digit, if_neg bracket, if_neg unclosed]

theorem dotIndices_bracket (h : ∀ d b, IsNumeral d → s ≠ d ++ ']' :: b) :
    dotIndices none ('[' :: s) = '[' :: dotIndices none s := by
  rw [dotIndices, if_pos rfl, dotIndices_pending_of_ne, List.reverse_nil, List.nil_append]
  intro d b hd hne
  exact h d b ⟨by simpa using hne, hd⟩

theorem dotIndices_append (hd : c.isDigit = false) (hc : c ≠ ']') (pending : Option (List Char))
    (a b : List Char) :
    dotIndices pending (a ++ c :: b) = dotIndices pending a ++ dotIndices none (c :: b) := by
  generalize hafter : dotIndices none (c :: b) = after
  induction a generalizing pending with
  | nil =>
      subst hafter
      cases pending with
      | none => rfl
      | some ds => by_cases bracket : c = '[' <;> simp [dotIndices, hd, hc, bracket]
  | cons e rest ih =>
      cases pending with
      | none => by_cases bracket : e = '[' <;> simp [dotIndices, bracket, ih]
      | some ds =>
          by_cases digit : e.isDigit = true
          · simp [dotIndices, digit, ih]
          · by_cases bracket : e = '['
            · simp [dotIndices, bracket, ih]
            · by_cases closes : e = ']' ∧ ds ≠ [] <;> simp [dotIndices, digit, bracket, closes, ih]

end Equations

theorem dotIndices_index_append (hd : IsNumeral d) (a b : List Char) :
    dotIndices none (a ++ '[' :: (d ++ ']' :: b))
      = dotIndices none a ++ '.' :: (d ++ dotIndices none b) := by
  rw [dotIndices_append (by decide) (by decide), dotIndices_index hd]

section Occurrences

variable {x y z : List Char} {e : Char}

theorem exists_eq_append_of_notMem (he : e ∉ x) (h : x ++ y = a ++ e :: b) :
    ∃ u, a = x ++ u ∧ y = u ++ e :: b := by
  rcases List.append_eq_append_iff.1 h with ⟨u, ha, hy⟩ | ⟨u, hx, hy⟩
  · exact ⟨u, ha, hy⟩
  · cases u with
    | nil => exact ⟨[], by simpa using hx.symm, by simpa using hy.symm⟩
    | cons f u =>
        obtain ⟨rfl, -⟩ := List.cons.inj hy
        exact absurd (by simp [hx]) he

theorem eq_of_append_cons_eq (hx : e ∉ x) (ha : e ∉ a) (h : x ++ e :: y = a ++ e :: b) : x = a ∧ y = b := by
  obtain ⟨u, rfl, hu⟩ := exists_eq_append_of_notMem hx h
  cases u with
  | nil => exact ⟨(List.append_nil x).symm, (List.cons.inj hu).2⟩
  | cons f u =>
      obtain ⟨rfl, -⟩ := List.cons.inj hu
      simp at ha

theorem HasIndex.of_append (hx : '[' ∉ x) (h : HasIndex (x ++ y)) : HasIndex y := by
  obtain ⟨a, d, b, hd, h⟩ := h
  obtain ⟨u, -, hy⟩ := exists_eq_append_of_notMem hx h
  exact ⟨u, d, b, hd, hy⟩

theorem HasIndex.of_dot (h : HasIndex (x ++ '.' :: y)) : HasIndex x ∨ HasIndex y := by
  obtain ⟨a, d, b, hd, h⟩ := h
  rcases List.append_eq_append_iff.1 h.symm with ⟨u, hx, hy⟩ | ⟨u, ha, hy⟩
  · have no_dot : '.' ∉ '[' :: (d ++ [']']) := by simp [hd.notMem]
    have whole : ('[' :: (d ++ [']'])) ++ b = u ++ '.' :: y := by simpa using hy
    obtain ⟨v, rfl, -⟩ := exists_eq_append_of_notMem no_dot whole
    exact .inl ⟨a, d, v, hd, by simpa using hx⟩
  · cases u with
    | nil => simp at hy
    | cons f u => exact .inr ⟨u, d, b, hd, (List.cons.inj hy).2⟩

theorem index_induction {P : List Char → Prop} (plain : ∀ s, ¬ HasIndex s → P s)
    (index : ∀ a d b, IsNumeral d → P a → P b → P (a ++ '[' :: (d ++ ']' :: b))) (s : List Char) : P s := by
  induction h : s.length using Nat.strongRecOn generalizing s with
  | ind n ih =>
      by_cases hs : HasIndex s
      · obtain ⟨a, d, b, hd, rfl⟩ := hs
        simp only [List.length_append, List.length_cons] at h
        exact index a d b hd (ih _ (by omega) a rfl) (ih _ (by omega) b rfl)
      · exact plain s hs

end Occurrences

theorem dotIndices_of_not_hasIndex (h : ¬ HasIndex s) : dotIndices none s = s := by
  induction s with
  | nil => rfl
  | cons c rest ih =>
      have later : ¬ HasIndex rest := fun hr => h (hr.append_left [c])
      by_cases hc : c = '['
      · subst hc
        rw [dotIndices_bracket, ih later]
        rintro d b hd rfl
        exact h ⟨[], d, b, hd, rfl⟩
      · rw [dotIndices_cons hc, ih later]

theorem not_hasIndex_dotIndices (s : List Char) : ¬ HasIndex (dotIndices none s) := by
  induction s using index_induction with
  | plain s h => rwa [dotIndices_of_not_hasIndex h]
  | index a d b hd iha ihb =>
      rw [dotIndices_index_append hd]
      intro h
      rcases h.of_dot with h | h
      · exact iha h
      · exact ihb (h.of_append (hd.notMem (by decide)))

end Storefront.Path
