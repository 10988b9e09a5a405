import Mathlib.Data.List.Nodup
import Storefront.Key

namespace Storefront.Key

theorem natToString_injective {i j : Nat} (h : toString i = toString j) : i = j := by
  have hd : Nat.toDigits 10 i = Nat.toDigits 10 j := by
    simpa only [Nat.toString_eq_repr, Nat.toList_repr] using congrArg String.toList h
  simpa using congrArg (fun digits => Nat.ofDigitChars 10 digits 0) hd

theorem slash_notMem_natToString (i : Nat) : '/' ∉ (toString i).toList := by
  intro h
  rw [Nat.toString_eq_repr, Nat.toList_repr] at h
  have digit := Nat.isDigit_of_mem_toDigits (by decide) (by decide) h
  exact absurd digit (by decide)

theorem append_ne_empty {k : String} (h : k ≠ "") (s : String) : k ++ s ≠ "" := fun he =>
  h (String.append_eq_empty_iff.1 he).1

section Siblings

variable {taken : List String} {mark : String}

def marked (mark key : String) : Nat → String
  | 0 => key
  | n + 1 => marked mark (key ++ mark) n

theorem length_marked (mark key : String) (n : Nat) :
    (marked mark key n).length = key.length + n * mark.length := by
  induction n generalizing key with
  | zero => simp [marked]
  | succ n ih =>
      rw [marked, ih, String.length_append, Nat.succ_mul]
      omega

theorem marked_injective (hm : mark ≠ "") (key : String) : Function.Injective (marked mark key) := by
  intro i j h
  have hl := congrArg String.length h
  rw [length_marked, length_marked] at hl
  have pos : 0 < mark.length := by
    rw [Nat.pos_iff_ne_zero]
    exact fun h0 => hm (String.length_eq_zero_iff.1 h0)
  exact Nat.eq_of_mul_eq_mul_right pos (by omega)

theorem marked_mem_of_distinguish_mem {fuel : Nat} {key : String}
    (h : distinguish taken mark fuel key ∈ taken) {n : Nat} (hn : n ≤ fuel) :
    marked mark key n ∈ taken := by
  induction fuel generalizing key n with
  | zero =>
      obtain rfl := Nat.le_zero.1 hn
      exact h
  | succ fuel ih =>
      simp only [distinguish] at h
      split at h
      · rename_i hk
        cases n with
        | zero => exact hk
        | succ n => exact ih h (Nat.le_of_succ_le_succ hn)
      · contradiction

theorem distinguish_notMem (hm : mark ≠ "") (key : String) :
    distinguish taken mark taken.length key ∉ taken := by
  intro h
  have distinct : ((List.range (taken.length + 1)).map (marked mark key)).Nodup :=
    List.nodup_range.map (marked_injective hm key)
  have subset : (List.range (taken.length + 1)).map (marked mark key) ⊆ taken := by
    intro k hk
    obtain ⟨n, hn, rfl⟩ := List.mem_map.1 hk
    exact marked_mem_of_distinguish_mem h (Nat.le_of_lt_succ (List.mem_range.1 hn))
  have short := distinct.length_le_of_subset subset
  rw [List.length_map, List.length_range] at short
  omega

theorem mark_ne_empty (index : Nat) : "~" ++ toString index ≠ "" := by
  intro h
  have := congrArg String.length h
  simp [String.length_append] at this

theorem siblingsFrom_fresh (taken : List String) (index : Nat) (bs : List Block) :
    (∀ k ∈ siblingsFrom taken index bs, k ∉ taken) ∧ (siblingsFrom taken index bs).Nodup := by
  induction bs generalizing taken index with
  | nil => simp [siblingsFrom]
  | cons b rest ih =>
      simp only [siblingsFrom]
      generalize hkey : distinguish taken ("~" ++ toString index) taken.length (ofBlock b index) = key
      have fresh : key ∉ taken := hkey ▸ distinguish_notMem (mark_ne_empty index) _
      obtain ⟨later, distinct⟩ := ih (key :: taken) (index + 1)
      refine ⟨fun k hk => ?_, List.nodup_cons.2 ⟨fun hk => ?_, distinct⟩⟩
      · rcases List.mem_cons.1 hk with rfl | hk
        · exact fresh
        · exact fun ht => later k hk (List.mem_cons_of_mem _ ht)
      · exact later key hk (List.mem_cons_self ..)

theorem siblings_nodup (bs : List Block) : (siblings bs).Nodup := (siblingsFrom_fresh [] 0 bs).2

end Siblings

section Slashes

variable {k k' : String}

theorem slash_notMem_distinguish {taken : List String} {mark : String} (hm : '/' ∉ mark.toList)
    (fuel : Nat) {key : String} (hk : '/' ∉ key.toList) :
    '/' ∉ (distinguish taken mark fuel key).toList := by
  induction fuel generalizing key with
  | zero => exact hk
  | succ fuel ih =>
      simp only [distinguish]
      split
      · apply ih
        rw [String.toList_append, List.mem_append, not_or]
        exact ⟨hk, hm⟩
      · exact hk

theorem slash_notMem_siblingsFrom (taken : List String) (index : Nat) {bs : List Block}
    (h : ∀ b ∈ bs, ∀ i, '/' ∉ (ofBlock b i).toList) :
    ∀ k ∈ siblingsFrom taken index bs, '/' ∉ k.toList := by
  induction bs generalizing taken index with
  | nil => simp [siblingsFrom]
  | cons b rest ih =>
      intro k hk
      simp only [siblingsFrom] at hk
      rcases List.mem_cons.1 hk with rfl | hk
      · have mark : '/' ∉ ("~" ++ toString index).toList := by
          rw [String.toList_append, List.mem_append, not_or]
          exact ⟨by decide, slash_notMem_natToString index⟩
        exact slash_notMem_distinguish mark _ (h b (List.mem_cons_self ..) index)
      · exact ih _ _ (fun c hc => h c (List.mem_cons_of_mem _ hc)) k hk

def Tail (s : String) : Prop := s = "" ∨ ∃ t, s = "/" ++ t

theorem tail_slash (t : String) : Tail ("/" ++ t) := .inr ⟨t, rfl⟩

def Apart (k k' : String) : Prop := ∀ s s', Tail s → Tail s' → k ++ s ≠ k' ++ s'

theorem takeWhile_append_tail {s : String} (hk : '/' ∉ k.toList) (hs : Tail s) :
    (k ++ s).toList.takeWhile (· != '/') = k.toList := by
  have all : ∀ c ∈ k.toList, (c != '/') = true := fun c hc => by
    rw [bne_iff_ne]
    rintro rfl
    exact hk hc
  rw [String.toList_append, List.takeWhile_append_of_pos all]
  rcases hs with rfl | ⟨t, rfl⟩
  · simp
  · simp

theorem apart_of_ne (h : k ≠ k') (hk : '/' ∉ k.toList) (hk' : '/' ∉ k'.toList) : Apart k k' := by
  intro s s' hs hs' heq
  apply h
  rw [← String.toList_inj, ← takeWhile_append_tail hk hs, ← takeWhile_append_tail hk' hs', heq]

theorem Apart.ne (h : Apart k k') : k ≠ k' := by
  have := h "" "" (.inl rfl) (.inl rfl)
  simpa using this

theorem Apart.below (h : Apart k k') (t t' : String) : Apart (k ++ "/" ++ t) (k' ++ "/" ++ t') := by
  intro s s' _ _ heq
  simp only [String.append_assoc] at heq
  exact h _ _ (tail_slash _) (tail_slash _) heq

theorem Apart.under (h : Apart k k') (parent : String) :
    Apart (parent ++ "/" ++ k) (parent ++ "/" ++ k') := by
  intro s s' hs hs' heq
  apply h s s' hs hs'
  simpa only [String.append_assoc, String.append_right_inj] using heq

theorem natToString_apart {i j : Nat} (h : i ≠ j) : Apart (toString i) (toString j) :=
  apart_of_ne (fun he => h (natToString_injective he)) (slash_notMem_natToString i)
    (slash_notMem_natToString j)

end Slashes

end Storefront.Key
