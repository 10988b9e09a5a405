import Storefront.Json.Basic
import Storefront.Proofs.Binary64

namespace Storefront.Number

def value : Number → ℚ
  | .integer n => n
  | .float x => x.value

def rounded (n : Number) : ℚ := n.toBinary64.value

def isFloat : Number → Bool
  | .integer _ => false
  | .float _ => true

variable {m n : Number}

theorem nearest_toBinary64 (n : Number) : Binary64.Nearest n.value n.toBinary64 := by
  cases n with
  | integer k => exact Binary64.nearest_ofInt k
  | float x => exact Binary64.nearest_self x

theorem rounded_eq_value_iff : n.rounded = n.value ↔ ∃ x : Binary64, x.value = n.value :=
  (nearest_toBinary64 n).value_eq_iff

theorem rounded_float (x : Binary64) : (float x).rounded = (float x).value := rfl

theorem rounded_mono (h : m.value < n.value) : m.rounded ≤ n.rounded :=
  (nearest_toBinary64 m).mono (nearest_toBinary64 n) h

theorem rounded_congr (h : m.value = n.value) : m.rounded = n.rounded := by
  cases m with
  | float x => rw [rounded_float, h, eq_comm, rounded_eq_value_iff]; exact ⟨x, h⟩
  | integer j =>
      cases n with
      | float y => rw [rounded_float, ← h, rounded_eq_value_iff]; exact ⟨y, h.symm⟩
      | integer k =>
          have same : j = k := Int.cast_injective h
          rw [same]

theorem rounded_inj (h : m.rounded = n.rounded → m.value = n.value) :
    m.rounded = n.rounded ↔ m.value = n.value := ⟨h, rounded_congr⟩

theorem rounded_lt_iff (h : m.rounded = n.rounded → m.value = n.value) :
    m.rounded < n.rounded ↔ m.value < n.value := by
  constructor
  · intro less
    by_contra notLess
    rcases lt_or_eq_of_le (not_lt.1 notLess) with greater | same
    · exact absurd less (not_lt.2 (rounded_mono greater))
    · exact less.ne' (rounded_congr same)
  · intro less
    exact lt_of_le_of_ne (rounded_mono less) fun same => less.ne (h same)

theorem rounded_integer {k : ℤ} (h : |k| ≤ 2 ^ 53) : (integer k).rounded = k :=
  rounded_eq_value_iff.2 (Binary64.exists_value_eq_intCast h)

theorem same_iff : m.same n = true ↔ m.isFloat = n.isFloat ∧ m.value = n.value := by
  cases m <;> cases n <;> simp [same, isFloat, value, Binary64.same_iff, Binary64.value_inj]

end Storefront.Number
