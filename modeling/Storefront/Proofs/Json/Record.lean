import Mathlib.Data.List.Pairwise
import Storefront.Proofs.Json.Canonical

namespace Storefront

theorem nodup_filterMap_iff {α β : Type} {f : α → Option β} {l : List α} (h : l.Nodup) :
    (l.filterMap f).Nodup ↔ ∀ a ∈ l, ∀ b ∈ l, ∀ c, f a = some c → f b = some c → a = b := by
  rw [List.Nodup, List.pairwise_filterMap]
  constructor
  · intro apart a ha b hb c hac hbc
    by_contra hne
    have symm : Std.Symm fun a b => ∀ c, f a = some c → ∀ d, f b = some d → c ≠ d :=
      ⟨fun a b h c hc d hd => (h d hd c hc).symm⟩
    exact apart.forall ha hb hne c hac c hbc rfl
  · intro injective
    refine h.imp_of_mem ?_
    intro a b ha hb hne c hc d hd heq
    subst heq
    exact hne (injective a ha b hb c hc hd)

namespace Json.Shape

variable {shape : Shape} {entries fields : List (String × Json)}

def recognized (shape : Shape) (entries : List (String × Json)) : List (String × Json) :=
  entries.filterMap fun e => (shape.field? e.1).map fun field => (field, e.2)

theorem recognized_cons_none {key : String} (h : shape.field? key = none) (value : Json) :
    shape.recognized ((key, value) :: entries) = shape.recognized entries := by
  simp [recognized, h]

theorem recognized_cons_some {key field : String} (h : shape.field? key = some field) (value : Json) :
    shape.recognized ((key, value) :: entries) = (field, value) :: shape.recognized entries := by
  simp [recognized, h]

theorem keys_recognized (entries : List (String × Json)) :
    Dictionary.keys (shape.recognized entries) = (Dictionary.keys entries).filterMap shape.field? := by
  induction entries with
  | nil => rfl
  | cons e rest ih =>
      obtain ⟨key, value⟩ := e
      cases h : shape.field? key with
      | none => simpa [recognized_cons_none h, Dictionary.keys, h] using ih
      | some field => simpa [recognized_cons_some h, Dictionary.keys, h] using ih

theorem named_eq_ok_iff {seen : List String} : shape.named seen entries = .ok fields ↔
    fields = shape.recognized entries ∧ (Dictionary.keys fields).Nodup ∧
      ∀ k ∈ Dictionary.keys fields, k ∉ seen := by
  induction entries generalizing seen fields with
  | nil =>
      simp only [named, recognized, List.filterMap_nil, Except.ok.injEq]
      constructor
      · rintro rfl
        simp [Dictionary.keys]
      · rintro ⟨rfl, -⟩
        rfl
  | cons e rest ih =>
      obtain ⟨key, value⟩ := e
      cases hf : shape.field? key with
      | none => rw [named, hf, recognized_cons_none hf]; exact ih
      | some field =>
          rw [named, hf, recognized_cons_some hf]
          by_cases hs : field ∈ seen
          · simp only [hs, if_true]
            constructor
            · rintro ⟨⟩
            · rintro ⟨rfl, -, fresh⟩
              exact absurd hs (fresh field (List.mem_cons_self ..))
          · simp only [hs, if_false]
            constructor
            · intro h
              cases hr : shape.named (field :: seen) rest with
              | error cause => simp [hr, Except.map] at h
              | ok later =>
                  obtain rfl : (field, value) :: later = fields := by simpa [hr, Except.map] using h
                  obtain ⟨rfl, distinct, fresh⟩ := ih.1 hr
                  refine ⟨rfl, List.nodup_cons.2 ⟨fun hm => ?_, distinct⟩, fun k hk => ?_⟩
                  · exact fresh field hm (List.mem_cons_self ..)
                  · rcases List.mem_cons.1 hk with rfl | hk
                    · exact hs
                    · exact fun hm => fresh k hk (List.mem_cons_of_mem _ hm)
            · rintro ⟨rfl, distinct, fresh⟩
              obtain ⟨once, distinct⟩ := List.nodup_cons.1 distinct
              have later : shape.named (field :: seen) rest = .ok (shape.recognized rest) := by
                refine ih.2 ⟨rfl, distinct, fun k hk => ?_⟩
                rw [List.mem_cons, not_or]
                refine ⟨?_, fresh k (List.mem_cons_of_mem _ hk)⟩
                rintro rfl
                exact once hk
              rw [later, Except.map]

theorem exists_named_iff (h : (Dictionary.keys entries).Nodup) :
    (∃ fields, shape.named [] entries = .ok fields) ↔
      ∀ j ∈ Dictionary.keys entries, ∀ k ∈ Dictionary.keys entries, ∀ field,
        shape.field? j = some field → shape.field? k = some field → j = k := by
  rw [← nodup_filterMap_iff h, ← keys_recognized]
  constructor
  · rintro ⟨fields, hf⟩
    obtain ⟨rfl, distinct, -⟩ := named_eq_ok_iff.1 hf
    exact distinct
  · intro distinct
    exact ⟨_, named_eq_ok_iff.2 ⟨rfl, distinct, by simp⟩⟩

theorem eq_of_field?_eq_some (h : shape.aliases = []) {key field : String}
    (hf : shape.field? key = some field) : key = field := by
  rw [field?, h] at hf
  split at hf
  · exact Option.some.inj hf
  · cases hf

theorem exists_named_of_no_aliases (h : shape.aliases = []) (hk : (Dictionary.keys entries).Nodup) :
    ∃ fields, shape.named [] entries = .ok fields := by
  rw [exists_named_iff hk]
  intro j _ k _ field hj hk
  rw [eq_of_field?_eq_some h hj, eq_of_field?_eq_some h hk]

end Json.Shape

end Storefront
