import Storefront.Proofs.Key

namespace Storefront.Key

inductive Settles (taken : List String) (mark : String) : String → Nat → String → Prop
  | free {key : String} (h : key ∉ taken) : Settles taken mark key 0 key
  | again {key found : String} {n : Nat} (h : key ∈ taken)
      (rest : Settles taken mark (key ++ mark) n found) : Settles taken mark key (n + 1) found

section Search

variable {taken : List String} {mark key found : String} {n : Nat}

theorem Settles.notMem (h : Settles taken mark key n found) : found ∉ taken := by
  induction h with
  | free h => exact h
  | again _ _ ih => exact ih

theorem Settles.eq_append (h : Settles taken mark key n found) :
    found = key ++ String.join (List.replicate n mark) := by
  induction h with
  | free _ => simp
  | again _ _ ih => rw [ih, List.replicate_succ, String.join_cons, String.append_assoc]

theorem Settles.eq_key_iff (h : Settles taken mark key n found) : found = key ↔ key ∉ taken := by
  constructor
  · rintro rfl
    exact h.notMem
  · intro hk
    cases h with
    | free _ => rfl
    | again h _ => contradiction

theorem Settles.congr {taken' : List String} (same : ∀ k, k ∈ taken ↔ k ∈ taken')
    (h : Settles taken mark key n found) : Settles taken' mark key n found := by
  induction h with
  | free h => exact .free ((same _).not.1 h)
  | again h _ ih => exact .again ((same _).1 h) ih

theorem settles_distinguish {fuel : Nat} (h : distinguish taken mark fuel key ∉ taken) :
    ∃ n ≤ fuel, Settles taken mark key n (distinguish taken mark fuel key) := by
  induction fuel generalizing key with
  | zero => exact ⟨0, Nat.le_refl 0, .free h⟩
  | succ fuel ih =>
      simp only [distinguish] at h ⊢
      split at h
      · rename_i hk
        obtain ⟨n, hn, settles⟩ := ih h
        rw [if_pos hk]
        exact ⟨n + 1, Nat.succ_le_succ hn, .again hk settles⟩
      · rename_i hk
        rw [if_neg hk]
        exact ⟨0, Nat.zero_le _, .free hk⟩

end Search

section Siblings

variable {taken : List String} {bs : List Block}

theorem siblingsFrom_settle (taken : List String) (index : Nat) {i : Nat} {b : Block} (hb : bs[i]? = some b) :
    ∃ n ≤ taken.length + i, ∃ key, (siblingsFrom taken index bs)[i]? = some key ∧
      Settles (taken.reverse ++ (siblingsFrom taken index bs).take i)
        ("~" ++ toString (index + i)) (ofBlock b (index + i)) n key := by
  induction bs generalizing taken index i with
  | nil => simp at hb
  | cons c rest ih =>
      simp only [siblingsFrom]
      generalize hfirst : distinguish taken ("~" ++ toString index) taken.length (ofBlock c index) = first
      cases i with
      | zero =>
          obtain rfl : c = b := by simpa using hb
          have fresh : first ∉ taken := hfirst ▸ distinguish_notMem (mark_ne_empty index) _
          obtain ⟨n, hn, settles⟩ := settles_distinguish (hfirst ▸ fresh)
          rw [hfirst] at settles
          exact ⟨n, hn, first, rfl, settles.congr (by simp)⟩
      | succ i =>
          -- the first key is taken for the blocks that follow
          obtain ⟨n, hn, key, hkey, settles⟩ := ih (first :: taken) (index + 1) hb
          have place : index + 1 + i = index + (i + 1) := by omega
          rw [place] at settles
          exact ⟨n, by rw [List.length_cons] at hn; omega, key, hkey, by simpa using settles⟩

theorem siblingsFrom_append (taken : List String) (index : Nat) (bs later : List Block) :
    ∃ rest, siblingsFrom taken index (bs ++ later) = siblingsFrom taken index bs ++ rest := by
  induction bs generalizing taken index with
  | nil => exact ⟨_, rfl⟩
  | cons b rest ih =>
      simp only [List.cons_append, siblingsFrom]
      obtain ⟨more, h⟩ := ih (distinguish taken ("~" ++ toString index) taken.length (ofBlock b index) :: taken)
        (index + 1)
      exact ⟨more, by rw [h]⟩

theorem take_siblings_append (bs later : List Block) :
    (siblings (bs ++ later)).take bs.length = siblings bs := by
  obtain ⟨rest, h⟩ := siblingsFrom_append [] 0 bs later
  rw [siblings, h, ← length_siblingsFrom [] 0 bs, List.take_left, siblings]

def ownKeys (index : Nat) (bs : List Block) : List String := bs.mapIdx fun i b => ofBlock b (index + i)

theorem ownKeys_cons (index : Nat) (b : Block) (rest : List Block) :
    ownKeys index (b :: rest) = ofBlock b index :: ownKeys (index + 1) rest := by
  simp [ownKeys, List.mapIdx_cons, Nat.add_assoc, Nat.add_comm 1]

theorem siblingsFrom_of_nodup {index : Nat} (fresh : ∀ k ∈ ownKeys index bs, k ∉ taken)
    (distinct : (ownKeys index bs).Nodup) : siblingsFrom taken index bs = ownKeys index bs := by
  induction bs generalizing taken index with
  | nil => rfl
  | cons b rest ih =>
      rw [ownKeys_cons] at fresh distinct ⊢
      obtain ⟨new, later⟩ := List.nodup_cons.1 distinct
      have first : distinguish taken ("~" ++ toString index) taken.length (ofBlock b index)
          = ofBlock b index := by
        have free : ofBlock b index ∉ taken := fresh _ (List.mem_cons_self ..)
        cases taken <;> simp [distinguish, free]
      rw [siblingsFrom, first]
      congr 1
      apply ih _ later
      intro k hk
      rw [List.mem_cons, not_or]
      exact ⟨fun he => new (he ▸ hk), fresh k (List.mem_cons_of_mem _ hk)⟩

theorem siblings_settle (bs : List Block) :
    (siblings bs).length = bs.length ∧ (siblings bs).Nodup ∧
    (∀ i b, bs[i]? = some b → ∃ n ≤ i, ∃ key, (siblings bs)[i]? = some key ∧
      Settles ((siblings bs).take i) ("~" ++ toString i) (ofBlock b i) n key ∧
      key = ofBlock b i ++ String.join (List.replicate n ("~" ++ toString i)) ∧
      (key = ofBlock b i ↔ ofBlock b i ∉ (siblings bs).take i)) ∧
    ((bs.mapIdx fun i b => ofBlock b i).Nodup → siblings bs = bs.mapIdx fun i b => ofBlock b i) ∧
    (∀ later, (siblings (bs ++ later)).take bs.length = siblings bs) := by
  refine ⟨length_siblingsFrom [] 0 bs, siblings_nodup bs, fun i b hb => ?_, fun distinct => ?_,
    take_siblings_append bs⟩
  · obtain ⟨n, hn, key, hkey, settles⟩ := siblingsFrom_settle [] 0 hb
    rw [Nat.zero_add] at settles
    rw [List.length_nil, Nat.zero_add] at hn
    exact ⟨n, hn, key, hkey, settles, settles.eq_append, settles.eq_key_iff⟩
  · have own : ownKeys 0 bs = bs.mapIdx fun i b => ofBlock b i := by simp [ownKeys]
    rw [← own] at distinct ⊢
    exact siblingsFrom_of_nodup (by simp) distinct

def lookalikes : List Block :=
  [{ id := some "block-1" }, {}, { wrapper := some "nav#block-1" }, { id := some "block-1~1" }]

theorem siblings_settle_lookalikes :
    lookalikes[3]? = some { id := some "block-1~1" } ∧
    siblings lookalikes = ["block-1", "block-1~1", "block-1~2", "block-1~1~3"] ∧
    (∃ n ≤ 3, Settles ["block-1", "block-1~1", "block-1~2"] "~3" "block-1~1" n "block-1~1~3") ∧
    ((lookalikes.drop 2).mapIdx fun i b => ofBlock b i).Nodup ∧
    siblings (lookalikes.drop 2) = ["block-1", "block-1~1"] := by
  obtain ⟨-, -, settle, -, -⟩ := siblings_settle lookalikes
  obtain ⟨n, hn, key, hkey, settles, -, -⟩ := settle 3 { id := some "block-1~1" } rfl
  have keys : siblings lookalikes = ["block-1", "block-1~1", "block-1~2", "block-1~1~3"] := by decide
  rw [keys] at hkey settles
  obtain rfl : "block-1~1~3" = key := Option.some.inj hkey
  obtain ⟨-, -, -, own, -⟩ := siblings_settle (lookalikes.drop 2)
  exact ⟨rfl, keys, ⟨n, hn, settles⟩, by decide, (own (by decide)).trans (by decide)⟩

end Siblings

end Storefront.Key
