import Storefront.Proofs.Path.Scanning

namespace Storefront.Path

variable {s a b d a' b' d' : List Char}

def interleave (form : List Char → List Char) (parts : List (List Char × List Char))
    (last : List Char) : List Char :=
  parts.flatMap (fun p => p.1 ++ form p.2) ++ last

theorem interleave_append (form : List Char → List Char) (before after : List (List Char × List Char))
    (text d last : List Char) :
    interleave form (before ++ (text, d) :: after) last
      = interleave form before text ++ (form d ++ interleave form after last) := by
  simp [interleave]

def bracketed (d : List Char) : List Char := '[' :: (d ++ [']'])

def dotted (d : List Char) : List Char := '.' :: d

def Replaces (s t : List Char) : Prop :=
  ∃ parts last, s = interleave bracketed parts last ∧ t = interleave dotted parts last ∧
    (∀ p ∈ parts, IsNumeral p.2) ∧
    ∀ a d b, IsNumeral d → s = a ++ (bracketed d ++ b) →
      ∃ before text after, parts = before ++ (text, d) :: after ∧
        a = interleave bracketed before text ∧ b = interleave bracketed after last

theorem index_suffix {u : List Char} (hd : IsNumeral d) (hd' : IsNumeral d')
    (h : bracketed d ++ b = u ++ (bracketed d' ++ b')) :
    (u = [] ∧ d = d' ∧ b = b') ∨ ∃ v, u = bracketed d ++ v ∧ b = v ++ (bracketed d' ++ b') := by
  have no_open : '[' ∉ d := hd.notMem (by decide)
  have no_close : ']' ∉ d := hd.notMem (by decide)
  simp only [bracketed, List.cons_append, List.append_assoc, List.nil_append] at h ⊢
  cases u with
  | nil => exact .inl ⟨rfl, eq_of_append_cons_eq no_close (hd'.notMem (by decide)) (List.cons.inj h).2⟩
  | cons c u =>
      obtain ⟨rfl, inside⟩ := List.cons.inj h
      obtain ⟨v, rfl, hv⟩ := exists_eq_append_of_notMem no_open inside
      cases v with
      | nil => simp at hv
      | cons c v =>
          obtain ⟨rfl, behind⟩ := List.cons.inj hv
          exact .inr ⟨v, rfl, behind⟩

theorem index_cases (hd : IsNumeral d) (hd' : IsNumeral d')
    (h : a ++ (bracketed d ++ b) = a' ++ (bracketed d' ++ b')) :
    (a' = a ∧ d' = d ∧ b' = b) ∨
    (∃ v, a' = a ++ (bracketed d ++ v) ∧ b = v ++ (bracketed d' ++ b')) ∨
    ∃ v, a = a' ++ (bracketed d' ++ v) ∧ b' = v ++ (bracketed d ++ b) := by
  rcases List.append_eq_append_iff.1 h with ⟨u, rfl, hu⟩ | ⟨u, rfl, hu⟩
  · rcases index_suffix hd hd' hu with ⟨rfl, rfl, rfl⟩ | ⟨v, rfl, rfl⟩
    · exact .inl ⟨by simp, rfl, rfl⟩
    · exact .inr (.inl ⟨v, rfl, rfl⟩)
  · rcases index_suffix hd' hd hu with ⟨rfl, rfl, rfl⟩ | ⟨v, rfl, rfl⟩
    · exact .inl ⟨by simp, rfl, rfl⟩
    · exact .inr (.inr ⟨v, rfl, rfl⟩)

theorem replaces_dotIndices (s : List Char) : Replaces s (dotIndices none s) := by
  induction s using index_induction with
  | plain s h =>
      refine ⟨[], s, rfl, dotIndices_of_not_hasIndex h, by simp, fun a d b hd hs => ?_⟩
      exact absurd ⟨a, d, b, hd, by simpa [bracketed] using hs⟩ h
  | index a d b hd iha ihb =>
      obtain ⟨parts, last, ha, hta, numerals, all⟩ := iha
      obtain ⟨parts', last', hb, htb, numerals', all'⟩ := ihb
      refine ⟨parts ++ (last, d) :: parts', last', ?_, ?_, ?_, fun a' d' b' hd' h => ?_⟩
      · rw [interleave_append, ← ha, ← hb]
        simp [bracketed]
      · rw [interleave_append, ← hta, ← htb, dotIndices_index_append hd]
        rfl
      · intro p hp
        rcases List.mem_append.1 hp with hp | hp
        · exact numerals p hp
        · rcases List.mem_cons.1 hp with rfl | hp
          · exact hd
          · exact numerals' p hp
      · have whole : a ++ (bracketed d ++ b) = a' ++ (bracketed d' ++ b') := by
          rw [← h]
          simp [bracketed]
        -- the occurrence is the index that splits the text, or in the text after it or before it
        rcases index_cases hd hd' whole with ⟨rfl, rfl, rfl⟩ | ⟨v, rfl, hv⟩ | ⟨v, hv, rfl⟩
        · exact ⟨parts, last, parts', rfl, ha, hb⟩
        · obtain ⟨before, text, after, rfl, rfl, hb'⟩ := all' v d' b' hd' hv
          refine ⟨parts ++ (last, d) :: before, text, after, by simp, ?_, hb'⟩
          rw [interleave_append, ← ha]
        · obtain ⟨before, text, after, rfl, ha', rfl⟩ := all a' d' v hd' hv
          refine ⟨before, text, after ++ (last, d) :: parts', by simp, ha', ?_⟩
          rw [interleave_append, ← hb]

theorem normalize_replaces (path : String) :
    scan? [] path.toList = some (normalize path).toList ∧
    Replaces path.toList (normalize path).toList ∧
    ¬ HasIndex (normalize path).toList ∧
    normalize (normalize path) = normalize path := by
  have text : (normalize path).toList = dotIndices none path.toList := by simp [normalize]
  have clean : ¬ HasIndex (normalize path).toList := text ▸ not_hasIndex_dotIndices _
  refine ⟨?_, text ▸ replaces_dotIndices _, clean, ?_⟩
  · rw [scan?_eq, text, List.nil_append]
  · rw [normalize, dotIndices_of_not_hasIndex clean, String.ofList_toList]

example : normalize "é[12][[3]4][x]" = "é.12[.34][x]" := by decide

end Storefront.Path
