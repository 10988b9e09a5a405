import Storefront.Proofs.Path.Indices

namespace Storefront

namespace Text

variable {a b s : List Char} {c : Char} {n : Nat}

def bytes : List Char → Nat
  | [] => 0
  | c :: rest => c.utf8Size + bytes rest

def cut? : Nat → List Char → Option (List Char × List Char)
  | 0, s => some ([], s)
  | _ + 1, [] => none
  | n + 1, c :: rest =>
      if c.utf8Size ≤ n + 1 then (cut? (n + 1 - c.utf8Size) rest).map fun p => (c :: p.1, p.2) else none

def offset? (c : Char) : List Char → Option Nat
  | [] => none
  | d :: rest => if d = c then some 0 else (offset? c rest).map (d.utf8Size + ·)

theorem bytes_append (a b : List Char) : bytes (a ++ b) = bytes a + bytes b := by
  induction a with
  | nil => simp [bytes]
  | cons c rest ih => rw [List.cons_append, bytes, ih, bytes, Nat.add_assoc]

theorem cut?_append (a b : List Char) : cut? (bytes a) (a ++ b) = some (a, b) := by
  induction a with
  | nil => simp [bytes, cut?]
  | cons c rest ih =>
      have pos := c.utf8Size_pos
      obtain ⟨m, hm⟩ : ∃ m, bytes (c :: rest) = m + 1 := ⟨bytes (c :: rest) - 1, by rw [bytes]; omega⟩
      have left : m + 1 - c.utf8Size = bytes rest := by rw [← hm, bytes]; omega
      have fits : c.utf8Size ≤ m + 1 := by rw [← hm, bytes]; omega
      rw [hm, List.cons_append, cut?, if_pos fits, left, ih, Option.map_some]

theorem offset?_append (h : c ∉ a) (b : List Char) : offset? c (a ++ c :: b) = some (bytes a) := by
  induction a with
  | nil => simp [offset?, bytes]
  | cons d rest ih =>
      rw [List.mem_cons, not_or] at h
      rw [List.cons_append, offset?, if_neg (Ne.symm h.1), ih h.2, bytes, Option.map_some]

theorem offset?_of_notMem (h : c ∉ s) : offset? c s = none := by
  induction s with
  | nil => rfl
  | cons d rest ih =>
      rw [List.mem_cons, not_or] at h
      rw [offset?, if_neg (Ne.symm h.1), ih h.2, Option.map_none]

end Text

namespace Path

open Text (bytes cut? offset?)

variable {s d before after : List Char}

def inside? (s : List Char) : Option (List Char) :=
  match offset? ']' s with
  | some closing => (cut? closing s).map Prod.fst
  | none => some []

def round? (s : List Char) : Option (List Char × Option (List Char)) :=
  match offset? '[' s with
  | none => some (s, none)
  | some opening => do
      let (before, bracket) ← cut? opening s
      let (_, after) ← cut? 1 bracket
      let digits ← inside? after
      if IsNumeral digits then
        let (_, after) ← cut? (bytes digits + 2) bracket
        some (before ++ '.' :: digits, some after)
      else some (before ++ ['['], some after)

theorem inside?_append (h : ']' ∉ d) (after : List Char) : inside? (d ++ ']' :: after) = some d := by
  rw [inside?, Text.offset?_append h]
  simp only [Text.cut?_append, Option.map_some]

theorem exists_inside? (h : ∀ d b, IsNumeral d → s ≠ d ++ ']' :: b) :
    ∃ d, inside? s = some d ∧ ¬ IsNumeral d := by
  by_cases closing : ']' ∈ s
  · obtain ⟨d, b, rfl, hd⟩ := List.eq_append_cons_of_mem closing
    exact ⟨d, inside?_append hd b, fun numeral => h d b numeral rfl⟩
  · refine ⟨[], ?_, fun numeral => numeral.1 rfl⟩
    rw [inside?, Text.offset?_of_notMem closing]

theorem round?_of_notMem (h : '[' ∉ s) : round? s = some (s, none) := by
  rw [round?, Text.offset?_of_notMem h]

theorem cut?_bracket (s : List Char) : cut? 1 ('[' :: s) = some (['['], s) :=
  Text.cut?_append ['['] s

theorem round?_index (hb : '[' ∉ before) (hd : IsNumeral d) (after : List Char) :
    round? (before ++ '[' :: (d ++ ']' :: after)) = some (before ++ '.' :: d, some after) := by
  have size : bytes ('[' :: (d ++ [']'])) = bytes d + 2 := by
    rw [bytes, Text.bytes_append]
    have one : '['.utf8Size = 1 ∧ bytes [']'] = 1 := ⟨rfl, rfl⟩
    omega
  have index : cut? (bytes d + 2) ('[' :: (d ++ ']' :: after)) = some ('[' :: (d ++ [']']), after) := by
    rw [← size]
    simpa using Text.cut?_append ('[' :: (d ++ [']'])) after
  rw [round?, Text.offset?_append hb]
  simp only [Text.cut?_append, cut?_bracket, inside?_append (hd.notMem (by decide)), index, hd,
    Option.bind_eq_bind, Option.bind_some, if_true]

theorem round?_bracket (hb : '[' ∉ before) (h : ∀ d b, IsNumeral d → after ≠ d ++ ']' :: b) :
    round? (before ++ '[' :: after) = some (before ++ ['['], some after) := by
  obtain ⟨d, hd, not_numeral⟩ := exists_inside? h
  rw [round?, Text.offset?_append hb]
  simp only [Text.cut?_append, cut?_bracket, hd, not_numeral, Option.bind_eq_bind, Option.bind_some,
    if_false]

theorem round?_spec (s : List Char) :
    (round? s = some (s, none) ∧ dotIndices none s = s) ∨
    ∃ written after, round? s = some (written, some after) ∧ after.length < s.length ∧
      dotIndices none s = written ++ dotIndices none after := by
  by_cases bracket : '[' ∈ s
  · obtain ⟨before, after, rfl, hb⟩ := List.eq_append_cons_of_mem bracket
    refine .inr ?_
    rw [dotIndices_of_notMem hb]
    -- a bracket that begins an index is passed with the whole index, any other one alone
    by_cases index : ∃ d b, IsNumeral d ∧ after = d ++ ']' :: b
    · obtain ⟨d, b, hd, rfl⟩ := index
      refine ⟨_, b, round?_index hb hd b, by simp; omega, ?_⟩
      rw [dotIndices_index hd, List.append_assoc, List.cons_append]
    · have unclosed : ∀ d b, IsNumeral d → after ≠ d ++ ']' :: b := fun d b hd h => index ⟨d, b, hd, h⟩
      refine ⟨_, after, round?_bracket hb unclosed, by simp; omega, ?_⟩
      rw [dotIndices_bracket unclosed, List.append_assoc, List.singleton_append]
  · refine .inl ⟨round?_of_notMem bracket, ?_⟩
    simpa [dotIndices] using dotIndices_of_notMem bracket []

theorem length_lt_of_round? {written : List Char} (h : round? s = some (written, some after)) :
    after.length < s.length := by
  rcases round?_spec s with ⟨last, -⟩ | ⟨_, _, next, shorter, -⟩
  · simp [last] at h
  · rw [next] at h
    cases h
    exact shorter

def scan? (out s : List Char) : Option (List Char) :=
  match _ : round? s with
  | none => none
  | some (written, none) => some (out ++ written)
  | some (written, some after) => scan? (out ++ written) after
termination_by s.length
decreasing_by exact length_lt_of_round? ‹_›

theorem scan?_of_last (out : List Char) {written : List Char} (h : round? s = some (written, none)) :
    scan? out s = some (out ++ written) := by
  rw [scan?]
  split <;> simp_all

theorem scan?_of_next (out : List Char) {written : List Char} (h : round? s = some (written, some after)) :
    scan? out s = scan? (out ++ written) after := by
  rw [scan?]
  split <;> simp_all

theorem scan?_eq (out s : List Char) : scan? out s = some (out ++ dotIndices none s) := by
  induction length : s.length using Nat.strongRecOn generalizing out s with
  | ind n ih =>
      rcases round?_spec s with ⟨last, unchanged⟩ | ⟨written, after, next, shorter, changed⟩
      · rw [scan?_of_last out last, unchanged]
      · rw [scan?_of_next out next, ih _ (length ▸ shorter) _ after rfl, changed, List.append_assoc]

end Path

end Storefront
