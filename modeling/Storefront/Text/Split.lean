namespace Storefront.Text

def split (mark : Char) : List Char → List (List Char)
  | [] => [[]]
  | c :: rest =>
      if c = mark then [] :: split mark rest
      else
        match split mark rest with
        | [] => [[c]]
        | part :: parts => (c :: part) :: parts

theorem split_ne_nil (mark : Char) (s : List Char) : split mark s ≠ [] := by
  cases s with
  | nil => simp [split]
  | cons c rest =>
      simp only [split]
      split
      · simp
      · split <;> simp

theorem split_of_notMem {mark : Char} {s : List Char} (h : mark ∉ s) : split mark s = [s] := by
  induction s with
  | nil => rfl
  | cons c rest ih =>
      rw [List.mem_cons, not_or] at h
      rw [split, if_neg (Ne.symm h.1), ih h.2]

theorem split_append {mark : Char} {a b x y : List Char} {before after : List (List Char)}
    (ha : split mark a = before ++ [x]) (hb : split mark b = y :: after) :
    split mark (a ++ b) = before ++ (x ++ y) :: after := by
  induction a generalizing before x with
  | nil =>
      cases before with
      | nil =>
          obtain ⟨rfl, -⟩ := List.cons.inj ha
          exact hb
      | cons first before => simp [split] at ha
  | cons c rest ih =>
      rw [List.cons_append, split]
      rw [split] at ha
      by_cases hc : c = mark
      · rw [if_pos hc] at ha ⊢
        cases before with
        | nil => exact absurd (List.cons.inj ha).2 (split_ne_nil mark rest)
        | cons first before =>
            obtain ⟨rfl, hrest⟩ := List.cons.inj ha
            rw [ih hrest, List.cons_append]
      · rw [if_neg hc] at ha ⊢
        cases hrest : split mark rest with
        | nil => exact absurd hrest (split_ne_nil mark rest)
        | cons part parts =>
            rw [hrest] at ha
            cases before with
            | nil =>
                obtain ⟨rfl, rfl⟩ := List.cons.inj ha
                have one : split mark rest = [] ++ [part] := hrest
                rw [ih one]
                rfl
            | cons first before =>
                obtain ⟨rfl, rfl⟩ := List.cons.inj ha
                have more : split mark rest = (part :: before) ++ [x] := hrest
                rw [ih more]
                rfl

theorem split_append_mark (mark : Char) (a b : List Char) :
    split mark (a ++ mark :: b) = split mark a ++ split mark b := by
  induction a with
  | nil => simp [split]
  | cons c rest ih =>
      rw [List.cons_append, split, split]
      split
      · rw [ih, List.cons_append]
      · rw [ih]
        cases h : split mark rest with
        | nil => exact absurd h (split_ne_nil mark rest)
        | cons part parts => rfl

end Storefront.Text
