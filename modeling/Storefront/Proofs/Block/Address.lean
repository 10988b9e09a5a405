import Storefront.Block.Basic

namespace Storefront.Block

def at? : Block → List Nat → Option Block
  | b, [] => some b
  | b, i :: rest => b.nested[i]?.bind fun c => c.at? rest

def modifyNested (b : Block) (i : Nat) (f : Block → Block) : Block :=
  if i < b.children.length then { b with children := b.children.modify i f }
  else { b with blocks := b.blocks.modify (i - b.children.length) f }

def modifyAt (f : Block → Block) : List Nat → Block → Block
  | [], b => f b
  | i :: rest, b => b.modifyNested i (modifyAt f rest)

theorem at?_append (b : Block) (path : List Nat) (i : Nat) :
    b.at? (path ++ [i]) = (b.at? path).bind fun c => c.nested[i]? := by
  induction path generalizing b with
  | nil => simp [at?]
  | cons j rest ih =>
      simp only [List.cons_append, at?]
      cases b.nested[j]? with
      | none => rfl
      | some c => exact ih c

theorem nested_modifyNested (b : Block) (i : Nat) (f : Block → Block) :
    (b.modifyNested i f).nested = b.nested.modify i f := by
  apply List.ext_getElem?
  intro j
  by_cases hi : i < b.children.length
  · simp only [modifyNested, hi, if_true, nested, List.getElem?_append, List.getElem?_modify,
      List.length_modify]
    by_cases hj : j < b.children.length
    · simp [hj]
    · have hne : i ≠ j := by omega
      simp [hj, hne]
  · simp only [modifyNested, hi, if_false, nested, List.getElem?_append, List.getElem?_modify]
    by_cases hj : j < b.children.length
    · have hne : i ≠ j := by omega
      simp [hj, hne]
    · have heq : (i - b.children.length = j - b.children.length) ↔ i = j := by omega
      simp [hj, heq]

theorem modifyNested_eq (b : Block) (i : Nat) (f : Block → Block) :
    ∃ children blocks, b.modifyNested i f = { b with children, blocks } := by
  rw [modifyNested]
  split
  · exact ⟨_, b.blocks, rfl⟩
  · exact ⟨b.children, _, rfl⟩

theorem at?_modifyAt {root b : Block} {path : List Nat} (h : root.at? path = some b) (f : Block → Block) :
    (root.modifyAt f path).at? path = some (f b) := by
  induction path generalizing root with
  | nil =>
      obtain rfl : root = b := by simpa [at?] using h
      rfl
  | cons i rest ih =>
      rw [at?] at h
      obtain ⟨c, hc, hb⟩ := Option.bind_eq_some_iff.1 h
      rw [modifyAt, at?, nested_modifyNested, List.getElem?_modify_eq, hc]
      exact ih hb

end Storefront.Block
