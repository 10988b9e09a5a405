import Mathlib.Data.List.DropRight
import Storefront.Text.Blank

namespace Storefront.Text

variable {p : Char → Bool} {s t after : List Char}

section Ends

theorem head?_dropWhile (p : Char → Bool) (s : List Char) : ∀ c ∈ (s.dropWhile p).head?, p c = false := by
  intro c hc
  have first := List.head?_dropWhile_not p s
  rwa [Option.mem_def.1 hc] at first

theorem dropWhile_eq_self (h : ∀ c ∈ t.head?, p c = false) : t.dropWhile p = t := by
  cases t with
  | nil => rfl
  | cons c rest => simp [h c rfl]

theorem takeWhile_eq_nil (h : ∀ c ∈ t.head?, p c = false) : t.takeWhile p = [] := by
  cases t with
  | nil => rfl
  | cons c rest => simp [h c rfl]

theorem getLast?_rdropWhile (s : List Char) : ∀ c ∈ (s.rdropWhile isBlank).getLast?, isBlank c = false := by
  rw [List.rdropWhile, List.getLast?_reverse]
  exact head?_dropWhile isBlank s.reverse

theorem rdropWhile_eq_self (h : ∀ c ∈ t.getLast?, isBlank c = false) : t.rdropWhile isBlank = t := by
  rw [← List.head?_reverse] at h
  rw [List.rdropWhile, dropWhile_eq_self h, List.reverse_reverse]

theorem rdropWhile_append_of_blank (h : ∀ c ∈ after, isBlank c = true) (t : List Char) :
    (t ++ after).rdropWhile isBlank = t.rdropWhile isBlank := by
  have h : ∀ c ∈ after.reverse, isBlank c = true := fun c hc => h c (List.mem_reverse.1 hc)
  rw [List.rdropWhile, List.reverse_append, List.dropWhile_append_of_pos h, List.rdropWhile]

end Ends

def IsTrimmed (t : List Char) : Prop :=
  (∀ c ∈ t.head?, isBlank c = false) ∧ ∀ c ∈ t.getLast?, isBlank c = false

def Trims (s t : List Char) : Prop :=
  ∃ before after, s = before ++ (t ++ after) ∧ (∀ c ∈ before ++ after, isBlank c = true) ∧ IsTrimmed t

theorem trim_eq (s : List Char) : trim s = (s.dropWhile isBlank).rdropWhile isBlank := rfl

theorem isTrimmed_trim (s : List Char) : IsTrimmed (trim s) := by
  refine ⟨fun c hc => head?_dropWhile isBlank s c ?_, getLast?_rdropWhile _⟩
  obtain ⟨rest, hrest⟩ : trim s <+: s.dropWhile isBlank := List.rdropWhile_prefix isBlank _
  exact hrest ▸ List.mem_head?_append_of_mem_head? hc

theorem trims_trim (s : List Char) : Trims s (trim s) := by
  refine ⟨s.takeWhile isBlank, (s.dropWhile isBlank).rtakeWhile isBlank, ?_, fun c hc => ?_, isTrimmed_trim s⟩
  · rw [trim_eq, List.rdropWhile_append_rtakeWhile, List.takeWhile_append_dropWhile]
  · rcases List.mem_append.1 hc with hc | hc
    · exact List.mem_takeWhile_imp hc
    · exact List.mem_rtakeWhile_imp hc

theorem Trims.trim_eq (h : Trims s t) : trim s = t := by
  obtain ⟨before, after, rfl, blank, first, last⟩ := h
  obtain ⟨blank_before, blank_after⟩ := List.forall_mem_append.1 blank
  rw [Text.trim_eq, List.dropWhile_append_of_pos blank_before]
  cases t with
  | nil =>
      rw [List.nil_append, List.dropWhile_eq_nil_iff.2 blank_after, List.rdropWhile_nil]
  | cons c rest =>
      rw [dropWhile_eq_self (t := c :: rest ++ after) first, rdropWhile_append_of_blank blank_after,
        rdropWhile_eq_self last]

end Storefront.Text
