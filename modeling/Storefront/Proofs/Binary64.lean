import Mathlib.Algebra.Order.Field.Rat
import Mathlib.Algebra.Order.Ring.Abs
import Mathlib.Order.Monotone.Odd
import Mathlib.Tactic.Linarith
import Mathlib.Tactic.Ring
import Storefront.Binary64

namespace Storefront.Binary64

@[irreducible] def unitsInOne : Nat := Nat.pow 2 1074

section Grid

theorem units_binade {shift q : Nat} (hq : q ≤ 2 ^ 53) (full : 2 ^ 52 ≤ q ∨ shift = 0) :
    units (shift * 2 ^ 52 + q) = q * 2 ^ shift := by
  simp only [units, Nat.pow_eq]
  by_cases last : q = 2 ^ 53
  · subst last
    have quotient : (shift * 2 ^ 52 + 2 ^ 53) / 2 ^ 52 - 1 = shift + 1 := by omega
    have rest : shift * 2 ^ 52 + 2 ^ 53 - (shift + 1) * 2 ^ 52 = 2 ^ 52 := by omega
    rw [quotient, rest, Nat.pow_succ 2 shift]
    omega
  · have quotient : (shift * 2 ^ 52 + q) / 2 ^ 52 - 1 = shift := by omega
    rw [quotient, Nat.add_sub_cancel_left]

theorem exists_binade (rank : Nat) :
    ∃ shift q, rank = shift * 2 ^ 52 + q ∧ q < 2 ^ 53 ∧ (2 ^ 52 ≤ q ∨ shift = 0) :=
  ⟨rank / 2 ^ 52 - 1, rank - (rank / 2 ^ 52 - 1) * 2 ^ 52, by omega, by omega, by omega⟩

theorem units_strictMono : StrictMono units := by
  apply strictMono_nat_of_lt_succ
  intro rank
  obtain ⟨shift, q, rfl, hq, full⟩ := exists_binade rank
  have next : 2 ^ 52 ≤ q + 1 ∨ shift = 0 := full.imp_left Nat.le_succ_of_le
  rw [Nat.add_assoc, units_binade hq.le full, units_binade hq next]
  exact Nat.mul_lt_mul_of_pos_right (Nat.lt_succ_self q) (Nat.two_pow_pos shift)

@[simp] theorem units_zero : units 0 = 0 := by simp [units]

theorem le_units_succ {shift q : Nat} (hq : q ≤ 2 ^ 53) (full : 2 ^ 52 ≤ q ∨ shift = 0) :
    (q + 1) * 2 ^ shift ≤ units (shift * 2 ^ 52 + q + 1) := by
  by_cases last : q = 2 ^ 53
  · subst last
    have split : shift * 2 ^ 52 + 2 ^ 53 + 1 = (shift + 1) * 2 ^ 52 + (2 ^ 52 + 1) := by omega
    rw [split, units_binade (by omega) (.inl (by omega)), Nat.pow_succ 2 shift]
    omega
  · have next : 2 ^ 52 ≤ q + 1 ∨ shift = 0 := full.imp_left Nat.le_succ_of_le
    rw [Nat.add_assoc, units_binade (by omega) next]

end Grid

section Rounding

variable {num den q : Nat}

structure Rounds (num den q : Nat) : Prop where
  low : 2 * q * den ≤ 2 * num + den
  high : 2 * num ≤ 2 * q * den + den
  even : 2 * q * den = 2 * num + den ∨ 2 * num = 2 * q * den + den → q % 2 = 0

theorem rounds_roundHalfEven (num : Nat) (h : 0 < den) : Rounds num den (roundHalfEven num den) := by
  have rest := Nat.mod_lt num h
  have whole : num = num / den * den + num % den := by rw [Nat.mul_comm, Nat.div_add_mod]
  have double (k : Nat) : 2 * k * den = 2 * (k * den) := Nat.mul_assoc 2 k den
  simp only [roundHalfEven]
  generalize num / den = quotient at *
  generalize num % den = r at *
  split
  · rename_i up
    simp only [Bool.or_eq_true, Bool.and_eq_true, decide_eq_true_eq, beq_iff_eq] at up
    have next : (quotient + 1) * den = quotient * den + den := Nat.succ_mul quotient den
    constructor <;> rw [double, next] <;> omega
  · rename_i down
    simp only [Bool.or_eq_true, Bool.and_eq_true, decide_eq_true_eq, beq_iff_eq] at down
    constructor <;> rw [double] <;> omega

theorem exists_shift (scaled : Nat) (h : 0 < den) :
    (scaled < 2 ^ 53 * (den * 2 ^ ((scaled / den).log2 - 52))) ∧
      ((scaled / den).log2 - 52 ≠ 0 →
        2 ^ 52 * (den * 2 ^ ((scaled / den).log2 - 52)) ≤ scaled) := by
  generalize hs : (scaled / den).log2 - 52 = shift
  have regroup (k : Nat) : 2 ^ k * (den * 2 ^ shift) = 2 ^ (k + shift) * den := by
    rw [Nat.pow_add, Nat.mul_comm den, Nat.mul_assoc]
  constructor
  · have short : (scaled / den).log2 + 1 ≤ 53 + shift := by omega
    have below : scaled / den < 2 ^ (53 + shift) :=
      Nat.lt_of_lt_of_le Nat.lt_log2_self (Nat.pow_le_pow_right (by decide) short)
    rw [regroup]
    exact (Nat.div_lt_iff_lt_mul h).1 below
  · intro hne
    have exact_ : (scaled / den).log2 = 52 + shift := by omega
    have pos : scaled / den ≠ 0 := by
      intro hz
      rw [hz, Nat.log2_zero] at exact_
      omega
    rw [regroup, ← exact_]
    exact (Nat.le_div_iff_mul_le h).1 (Nat.log2_self_le pos)

theorem rankOfRatio_eq (num den : Nat) :
    rankOfRatio num den = ((num * unitsInOne / den).log2 - 52) * Nat.pow 2 52
      + roundHalfEven (num * unitsInOne) (den * Nat.pow 2 ((num * unitsInOne / den).log2 - 52)) := by
  unfold rankOfRatio unitsInOne
  rfl

theorem Rounds.le_of_lt {k : Nat} (h : Rounds num den q) (hk : num < k * den) : q ≤ k := by
  have double (i : Nat) : 2 * i * den = 2 * (i * den) := Nat.mul_assoc 2 i den
  have low := h.low
  rw [double] at low
  have short : q * den < (k + 1) * den := by
    rw [Nat.succ_mul]
    omega
  exact Nat.le_of_lt_succ (Nat.lt_of_mul_lt_mul_right short)

theorem Rounds.ge_of_le {k : Nat} (h : Rounds num den q) (pos : 0 < den) (hk : k * den ≤ num) : k ≤ q := by
  have double (i : Nat) : 2 * i * den = 2 * (i * den) := Nat.mul_assoc 2 i den
  have high := h.high
  rw [double] at high
  have long : k * den < (q + 1) * den := by
    rw [Nat.succ_mul]
    omega
  exact Nat.le_of_lt_succ (Nat.lt_of_mul_lt_mul_right long)

theorem exists_rounds_rankOfRatio (num : Nat) (h : 0 < den) :
    ∃ shift q, rankOfRatio num den = shift * 2 ^ 52 + q ∧
      Rounds (num * unitsInOne) (den * 2 ^ shift) q ∧ q ≤ 2 ^ 53 ∧ (2 ^ 52 ≤ q ∨ shift = 0) ∧
      (shift ≠ 0 → 2 ^ 52 * (den * 2 ^ shift) ≤ num * unitsInOne) := by
  rw [rankOfRatio_eq, Nat.pow_eq, Nat.pow_eq]
  generalize num * unitsInOne = scaled
  obtain ⟨below, above⟩ := exists_shift scaled h
  generalize (scaled / den).log2 - 52 = shift at *
  have pos : 0 < den * 2 ^ shift := Nat.mul_pos h (Nat.two_pow_pos shift)
  have rounds := rounds_roundHalfEven scaled pos
  refine ⟨shift, roundHalfEven scaled (den * 2 ^ shift), rfl, rounds, rounds.le_of_lt below, ?_, above⟩
  by_cases low : shift = 0
  · exact .inr low
  · exact .inl (rounds.ge_of_le pos (above low))

section Neighbours

variable {scaled shift t : Nat}

theorem Rounds.le_sum (h : Rounds scaled (den * 2 ^ shift) q) (hq : q ≤ 2 ^ 53)
    (full : 2 ^ 52 ≤ q ∨ shift = 0) (ht : shift * 2 ^ 52 + q < t) :
    2 * scaled ≤ (units t + units (shift * 2 ^ 52 + q)) * den ∧
      (2 * scaled = (units t + units (shift * 2 ^ 52 + q)) * den → q % 2 = 0) := by
  have step : (q + 1) * 2 ^ shift ≤ units t :=
    (le_units_succ hq full).trans (units_strictMono.monotone ht)
  have further : 2 * q * (den * 2 ^ shift) + den * 2 ^ shift
      ≤ (units t + units (shift * 2 ^ 52 + q)) * den :=
    calc 2 * q * (den * 2 ^ shift) + den * 2 ^ shift
        = ((q + 1) * 2 ^ shift + q * 2 ^ shift) * den := by ring
      _ ≤ (units t + units (shift * 2 ^ 52 + q)) * den := by
          rw [units_binade hq full]
          exact Nat.mul_le_mul_right den (Nat.add_le_add_right step _)
  refine ⟨h.high.trans further, fun tie => ?_⟩
  exact h.even (.inr (Nat.le_antisymm h.high (tie ▸ further)))

theorem Rounds.sum_le (h : Rounds scaled (den * 2 ^ shift) q) (pos : 0 < den) (hq : q ≤ 2 ^ 53)
    (full : 2 ^ 52 ≤ q ∨ shift = 0) (whole : shift ≠ 0 → 2 ^ 52 * (den * 2 ^ shift) ≤ scaled)
    (ht : t < shift * 2 ^ 52 + q) :
    (units t + units (shift * 2 ^ 52 + q)) * den ≤ 2 * scaled ∧
      ((units t + units (shift * 2 ^ 52 + q)) * den = 2 * scaled → q % 2 = 0) := by
  have before : units t < units (shift * 2 ^ 52 + q) := units_strictMono ht
  rw [units_binade hq full] at before ⊢
  by_cases first : q = 2 ^ 52 ∧ shift ≠ 0
  · have smaller : (units t + q * 2 ^ shift) * den < 2 * scaled :=
      calc (units t + q * 2 ^ shift) * den
          < (q * 2 ^ shift + q * 2 ^ shift) * den :=
            Nat.mul_lt_mul_of_pos_right (Nat.add_lt_add_right before _) pos
        _ = 2 * (q * (den * 2 ^ shift)) := by ring
        _ ≤ 2 * scaled := Nat.mul_le_mul_left 2 (first.1 ▸ whole first.2)
    exact ⟨smaller.le, fun tie => absurd tie smaller.ne⟩
  · obtain ⟨p, rfl⟩ : ∃ p, q = p + 1 := ⟨q - 1, by omega⟩
    have step : units t ≤ p * 2 ^ shift := by
      rw [← units_binade (by omega) (by omega)]
      exact units_strictMono.monotone (by omega)
    have closer : (units t + (p + 1) * 2 ^ shift) * den + den * 2 ^ shift
        ≤ 2 * (p + 1) * (den * 2 ^ shift) :=
      calc (units t + (p + 1) * 2 ^ shift) * den + den * 2 ^ shift
          ≤ (p * 2 ^ shift + (p + 1) * 2 ^ shift) * den + den * 2 ^ shift :=
            Nat.add_le_add_right (Nat.mul_le_mul_right den (Nat.add_le_add_right step _)) _
        _ = 2 * (p + 1) * (den * 2 ^ shift) := by ring
    have low := h.low
    refine ⟨by omega, fun tie => ?_⟩
    exact h.even (.inl (by omega))

end Neighbours

structure NearestRank (num den rank : Nat) : Prop where
  above : ∀ t, rank < t → 2 * (num * unitsInOne) ≤ (units t + units rank) * den
  below : ∀ t, t < rank → (units t + units rank) * den ≤ 2 * (num * unitsInOne)
  even : ∀ t, t ≠ rank → (units t + units rank) * den = 2 * (num * unitsInOne) → rank % 2 = 0

theorem nearestRank_rankOfRatio (num : Nat) (h : 0 < den) :
    NearestRank num den (rankOfRatio num den) := by
  obtain ⟨shift, q, hr, rounds, hq, full, whole⟩ := exists_rounds_rankOfRatio num h
  rw [hr]
  constructor
  · intro t ht
    exact (rounds.le_sum hq full ht).1
  · intro t ht
    exact (rounds.sum_le h hq full whole ht).1
  · intro t ne tie
    have even : q % 2 = 0 := by
      rcases Nat.lt_or_gt_of_ne ne with ht | ht
      · exact (rounds.sum_le h hq full whole ht).2 tie
      · exact (rounds.le_sum hq full ht).2 tie.symm
    omega

end Rounding

section Value

def magnitude (rank : Nat) : ℚ := units rank / unitsInOne

def value (x : Binary64) : ℚ := if x.negative then -magnitude x.rank else magnitude x.rank

def valueAt (place : ℤ) : ℚ := place.sign * magnitude place.natAbs

theorem unitsInOne_pos : 0 < unitsInOne := by
  unfold unitsInOne
  generalize 1074 = n
  exact Nat.two_pow_pos n

@[simp] theorem magnitude_zero : magnitude 0 = 0 := by
  rw [magnitude, units_zero, Nat.cast_zero, zero_div]

theorem magnitude_strictMono : StrictMono magnitude := by
  intro r t h
  have one : (0 : ℚ) < unitsInOne := Nat.cast_pos.2 unitsInOne_pos
  exact div_lt_div_of_pos_right (Nat.cast_lt.2 (units_strictMono h)) one

@[simp] theorem valueAt_natCast (rank : Nat) : valueAt rank = magnitude rank := by
  cases rank with
  | zero => simp [valueAt]
  | succ rank =>
      have pos : (0 : ℤ) < (rank + 1 : Nat) := Int.natCast_pos.2 (Nat.succ_pos rank)
      rw [valueAt, Int.natAbs_natCast, Int.sign_eq_one_of_pos pos, Int.cast_one, one_mul]

@[simp] theorem valueAt_neg (place : ℤ) : valueAt (-place) = -valueAt place := by
  simp [valueAt]

theorem valueAt_lt_iff {i j : ℤ} : valueAt i < valueAt j ↔ i < j := by
  have mono : StrictMono valueAt := by
    apply strictMono_of_odd_strictMonoOn_nonneg valueAt_neg
    intro i hi j hj h
    obtain ⟨r, rfl⟩ := Int.eq_ofNat_of_zero_le hi
    obtain ⟨t, rfl⟩ := Int.eq_ofNat_of_zero_le hj
    rw [valueAt_natCast, valueAt_natCast]
    exact magnitude_strictMono (Int.ofNat_lt.1 h)
  exact mono.lt_iff_lt

theorem valueAt_ordinal (x : Binary64) : valueAt x.ordinal = x.value := by
  obtain ⟨negative, rank⟩ := x
  cases negative <;> simp [ordinal, value]

theorem value_lt_iff {x y : Binary64} : x.value < y.value ↔ x.ordinal < y.ordinal := by
  rw [← valueAt_ordinal, ← valueAt_ordinal, valueAt_lt_iff]

theorem value_le_iff {x y : Binary64} : x.value ≤ y.value ↔ x.ordinal ≤ y.ordinal := by
  rw [← not_lt, value_lt_iff, not_lt]

theorem value_inj {x y : Binary64} : x.value = y.value ↔ x.ordinal = y.ordinal := by
  rw [le_antisymm_iff, value_le_iff, value_le_iff, ← le_antisymm_iff]

end Value

section Nearest

/-- A number nearest to a rational, and of two that are equally near the one of even rank. -/
structure Nearest (q : ℚ) (x : Binary64) : Prop where
  least : ∀ y : Binary64, |x.value - q| ≤ |y.value - q|
  even : ∀ y : Binary64, y.value ≠ x.value → |y.value - q| = |x.value - q| → x.rank % 2 = 0

variable {p q a b : ℚ} {x y : Binary64}

theorem lesser_nearer_iff (h : a < b) : |a - q| ≤ |b - q| ↔ 2 * q ≤ b + a := by
  rw [← sq_le_sq]
  constructor
  · intro near
    by_contra beyond
    nlinarith
  · intro middle
    nlinarith

theorem greater_nearer_iff (h : a < b) : |b - q| ≤ |a - q| ↔ b + a ≤ 2 * q := by
  rw [← sq_le_sq]
  constructor
  · intro near
    by_contra beyond
    nlinarith
  · intro middle
    nlinarith

theorem Nearest.mono (hx : Nearest p x) (hy : Nearest q y) (h : p < q) : x.value ≤ y.value := by
  by_contra crossed
  have crossed : y.value < x.value := lt_of_not_ge crossed
  have high := (greater_nearer_iff crossed).1 (hx.least y)
  have low := (lesser_nearer_iff crossed).1 (hy.least x)
  linarith

theorem Nearest.value_eq_iff (h : Nearest q x) : x.value = q ↔ ∃ y : Binary64, y.value = q := by
  constructor
  · intro hx
    exact ⟨x, hx⟩
  · rintro ⟨y, hy⟩
    have none : |x.value - q| ≤ 0 := by simpa [hy] using h.least y
    exact sub_eq_zero.1 (abs_nonpos_iff.1 none)

theorem nearest_self (x : Binary64) : Nearest x.value x where
  least y := by simp
  even y hne same := by
    rw [sub_self, abs_zero, abs_eq_zero, sub_eq_zero] at same
    exact absurd same hne

theorem nearest_of_places (above : ∀ place, x.ordinal < place → 2 * q ≤ valueAt place + x.value)
    (below : ∀ place, place < x.ordinal → valueAt place + x.value ≤ 2 * q)
    (even : ∀ place, place ≠ x.ordinal → valueAt place + x.value = 2 * q → x.rank % 2 = 0) :
    Nearest q x where
  least y := by
    have place := valueAt_ordinal y
    rcases lt_trichotomy y.value x.value with h | h | h
    · rw [greater_nearer_iff h, add_comm, ← place]
      exact below _ (value_lt_iff.1 h)
    · rw [h]
    · rw [lesser_nearer_iff h, ← place]
      exact above _ (value_lt_iff.1 h)
  even y hne same := by
    have apart : y.ordinal ≠ x.ordinal := fun h => hne (value_inj.2 h)
    apply even y.ordinal apart
    rw [valueAt_ordinal]
    rcases lt_or_gt_of_ne hne with h | h
    · have := (lesser_nearer_iff h).1 same.le
      have := (greater_nearer_iff h).1 same.ge
      linarith
    · have := (lesser_nearer_iff h).1 same.ge
      have := (greater_nearer_iff h).1 same.le
      linarith

theorem middle_le_iff {num den r t : Nat} (h : 0 < den) :
    2 * ((num : ℚ) / den) ≤ magnitude t + magnitude r ↔ 2 * (num * unitsInOne) ≤ (units t + units r) * den := by
  have one : (0 : ℚ) < unitsInOne := Nat.cast_pos.2 unitsInOne_pos
  have parts : (0 : ℚ) < den := Nat.cast_pos.2 h
  rw [magnitude, magnitude, ← add_div, ← mul_div_assoc, div_le_div_iff₀ parts one, mul_assoc]
  norm_cast

theorem le_middle_iff {num den r t : Nat} (h : 0 < den) :
    magnitude t + magnitude r ≤ 2 * ((num : ℚ) / den) ↔ (units t + units r) * den ≤ 2 * (num * unitsInOne) := by
  have one : (0 : ℚ) < unitsInOne := Nat.cast_pos.2 unitsInOne_pos
  have parts : (0 : ℚ) < den := Nat.cast_pos.2 h
  rw [magnitude, magnitude, ← add_div, ← mul_div_assoc, div_le_div_iff₀ one parts, mul_assoc]
  norm_cast

theorem NearestRank.nearest {num den rank : Nat} (h : NearestRank num den rank) (pos : 0 < den) :
    Nearest ((num : ℚ) / den) ⟨false, rank⟩ := by
  have here : value ⟨false, rank⟩ = magnitude rank := rfl
  have place : ordinal ⟨false, rank⟩ = rank := rfl
  have quotient : 0 ≤ (num : ℚ) / den := div_nonneg (Nat.cast_nonneg num) (Nat.cast_nonneg den)
  -- a negative number is too far from the quotient, which is at least zero
  have negative (i : ℤ) (hi : i < 0) : valueAt i + magnitude rank < 2 * ((num : ℚ) / den) := by
    have less : valueAt i < magnitude 0 := by
      rw [← valueAt_natCast]
      exact valueAt_lt_iff.2 hi
    rcases Nat.eq_zero_or_pos rank with rfl | later
    · rw [magnitude_zero] at less ⊢
      linarith
    · have := (le_middle_iff pos).2 (h.below 0 later)
      linarith
  apply nearest_of_places <;> rw [here, place]
  · intro i hi
    obtain ⟨t, rfl⟩ := Int.eq_ofNat_of_zero_le ((Int.natCast_nonneg rank).trans hi.le)
    rw [valueAt_natCast, middle_le_iff pos]
    exact h.above t (Int.ofNat_lt.1 hi)
  · intro i hi
    rcases lt_or_ge i 0 with low | low
    · exact (negative i low).le
    · obtain ⟨t, rfl⟩ := Int.eq_ofNat_of_zero_le low
      rw [valueAt_natCast, le_middle_iff pos]
      exact h.below t (Int.ofNat_lt.1 hi)
  · intro i ne tie
    rcases lt_or_ge i 0 with low | low
    · exact absurd tie (negative i low).ne
    · obtain ⟨t, rfl⟩ := Int.eq_ofNat_of_zero_le low
      rw [valueAt_natCast] at tie
      have above := (middle_le_iff pos).1 tie.ge
      have below := (le_middle_iff pos).1 tie.le
      exact h.even t (fun heq => ne (congrArg Nat.cast heq)) (Nat.le_antisymm below above)

def neg (x : Binary64) : Binary64 := ⟨!x.negative, x.rank⟩

theorem value_neg (x : Binary64) : x.neg.value = -x.value := by
  obtain ⟨negative, rank⟩ := x
  cases negative <;> simp [neg, value]

theorem Nearest.neg (h : Nearest q x) : Nearest (-q) x.neg := by
  have mirror (y : Binary64) : |y.value - -q| = |y.neg.value - q| := by
    rw [value_neg, ← abs_neg]
    ring_nf
  have back : x.neg.neg.value = x.value := by rw [value_neg, value_neg, neg_neg]
  constructor
  · intro y
    rw [mirror, mirror, back]
    exact h.least y.neg
  · intro y hne same
    rw [mirror, mirror, back] at same
    apply h.even y.neg _ same
    rw [value_neg] at hne ⊢
    exact fun heq => hne (by rw [← heq, neg_neg])

theorem nearest_ofInt (n : ℤ) : Nearest n (ofInt n) := by
  have absolute : Nearest (n.natAbs : ℚ) ⟨false, rankOfRatio n.natAbs 1⟩ := by
    have := (nearestRank_rankOfRatio n.natAbs Nat.one_pos).nearest Nat.one_pos
    rwa [Nat.cast_one, div_one] at this
  rcases lt_or_ge n 0 with h | h
  · have signed : ofInt n = neg ⟨false, rankOfRatio n.natAbs 1⟩ := by simp [ofInt, neg, h]
    have opposite : (n : ℚ) = -(n.natAbs : ℚ) := by
      rw [← Int.cast_natCast, Int.ofNat_natAbs_of_nonpos h.le, Int.cast_neg, neg_neg]
    rw [signed, opposite]
    exact absolute.neg
  · have unsigned : ofInt n = ⟨false, rankOfRatio n.natAbs 1⟩ := by simp [ofInt, h]
    have same : (n : ℚ) = (n.natAbs : ℚ) := by
      rw [← Int.cast_natCast, Int.natAbs_of_nonneg h]
    rwa [unsigned, same]

theorem pow_mul_pow_eq_unitsInOne {i j : Nat} (h : i + j = 1074) : 2 ^ i * 2 ^ j = unitsInOne := by
  unfold unitsInOne
  rw [← Nat.pow_add, h]
  generalize 1074 = n
  rfl

theorem exists_stretch {n : Nat} (pos : n ≠ 0) (h : n ≤ 2 ^ 53) :
    ∃ k ≤ 52, 2 ^ 52 ≤ n * 2 ^ k ∧ n * 2 ^ k ≤ 2 ^ 53 := by
  have low : 2 ^ n.log2 ≤ n := Nat.log2_self_le pos
  have high : n < 2 ^ (n.log2 + 1) := Nat.lt_log2_self
  rcases Nat.lt_or_ge 52 n.log2 with long | short
  · have : 2 ^ 53 ≤ 2 ^ n.log2 := Nat.pow_le_pow_right (by decide) long
    exact ⟨0, by omega, by omega, by omega⟩
  · refine ⟨52 - n.log2, Nat.sub_le .., ?_, ?_⟩
    · calc 2 ^ 52 = 2 ^ n.log2 * 2 ^ (52 - n.log2) := by rw [← Nat.pow_add, Nat.add_sub_cancel' short]
        _ ≤ n * 2 ^ (52 - n.log2) := Nat.mul_le_mul_right _ low
    · calc n * 2 ^ (52 - n.log2) ≤ 2 ^ (n.log2 + 1) * 2 ^ (52 - n.log2) := Nat.mul_le_mul_right _ high.le
        _ = 2 ^ 53 := by rw [← Nat.pow_add, Nat.add_right_comm, Nat.add_sub_cancel' short]

theorem exists_value_eq_intCast {n : ℤ} (h : |n| ≤ 2 ^ 53) : ∃ x : Binary64, x.value = n := by
  have natural {n : Nat} (h : n ≤ 2 ^ 53) : ∃ x : Binary64, x.value = n := by
    rcases Nat.eq_zero_or_pos n with rfl | pos
    · exact ⟨zero, by simp [value, zero]⟩
    · obtain ⟨k, hk, full, small⟩ := exists_stretch pos.ne' h
      refine ⟨⟨false, (1074 - k) * 2 ^ 52 + n * 2 ^ k⟩, ?_⟩
      have one : (unitsInOne : ℚ) ≠ 0 := Nat.cast_ne_zero.2 unitsInOne_pos.ne'
      have whole : units ((1074 - k) * 2 ^ 52 + n * 2 ^ k) = n * unitsInOne := by
        rw [units_binade small (.inl full), Nat.mul_assoc, pow_mul_pow_eq_unitsInOne (by omega)]
      rw [value, if_neg Bool.false_ne_true, magnitude, whole, Nat.cast_mul, mul_div_cancel_right₀ _ one]
  rw [Int.abs_eq_natAbs] at h
  obtain ⟨x, hx⟩ := natural (show n.natAbs ≤ 2 ^ 53 by omega)
  rcases Int.natAbs_eq n with same | opposite
  · refine ⟨x, ?_⟩
    rw [hx, ← Int.cast_natCast, ← same]
  · refine ⟨x.neg, ?_⟩
    rw [value_neg, hx, ← Int.cast_natCast, ← Int.cast_neg, ← opposite]

end Nearest

end Storefront.Binary64
