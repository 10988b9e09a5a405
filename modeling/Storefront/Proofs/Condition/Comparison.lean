import Storefront.Proofs.Json.Equality

namespace Storefront

def Operator.relation? : Operator → Option (ℚ → ℚ → Bool)
  | .equals => some fun a b => a = b
  | .notEquals => some fun a b => a ≠ b
  | .greater => some fun a b => a > b
  | .less => some fun a b => a < b
  | .greaterOrEqual => some fun a b => a ≥ b
  | .lessOrEqual => some fun a b => a ≤ b
  | _ => none

namespace Condition

variable {c : Condition} {s : Scope} {m n : Number} {related : ℚ → ℚ → Bool}

theorem check_of_numbers (hm : s.resolve c.field = some (.number m)) (hn : c.value = some (.number n))
    (hop : c.op.relation? = some related) : c.check s = .ok (related m.rounded n.rounded) := by
  have equal : strictEq (some (.number m)) (some (.number n)) = decide (m.rounded = n.rounded) :=
    Bool.eq_iff_iff.2 ((Json.strictEq_number m n).trans decide_eq_true_iff.symm)
  have less (i j : Number) : decide (i.rounded < j.rounded)
      = decide (i.toBinary64.ordinal < j.toBinary64.ordinal) := decide_eq_decide.2 Binary64.value_lt_iff
  have notAbove (i j : Number) : decide (i.rounded ≤ j.rounded)
      = decide (i.toBinary64.ordinal ≤ j.toBinary64.ordinal) := decide_eq_decide.2 Binary64.value_le_iff
  rw [check, hm, hn]
  cases hc : c.op <;> rw [hc] at hop <;> cases hop <;>
    simp only [equal, compares, gt_iff_lt, ge_iff_le, less, notAbove, decide_not, ne_eq]

theorem related_rounded (h : m.rounded = n.rounded → m.value = n.value) {op : Operator}
    (hop : op.relation? = some related) : related m.rounded n.rounded = related m.value n.value := by
  have back : n.rounded = m.rounded → n.value = m.value := fun same => (h same.symm).symm
  have less := Number.rounded_lt_iff h
  have greater := Number.rounded_lt_iff back
  rw [Bool.eq_iff_iff]
  cases op <;> cases hop <;>
    simp only [decide_eq_true_iff, ne_eq, gt_iff_lt, ge_iff_le, ← not_lt, Number.rounded_inj h, less, greater]

theorem check_contains {items : List Json} (hop : c.op = .contains)
    (hi : s.resolve c.field = some (.array items)) (hn : c.value = some (.number n)) :
    ∃ b, c.check s = .ok b ∧ (b = true ↔ ∃ m, .number m ∈ items ∧ m.rounded = n.rounded) := by
  refine ⟨items.any fun item => item.strictEq (.number n), ?_, ?_⟩
  · rw [check, hop, hi, hn]
    rfl
  · rw [List.any_eq_true]
    constructor
    · rintro ⟨item, hitem, equal⟩
      cases item with
      | number m => exact ⟨m, hitem, (Json.strictEq_number m n).1 equal⟩
      | _ => cases equal
    · rintro ⟨m, hm, same⟩
      exact ⟨_, hm, (Json.strictEq_number m n).2 same⟩

theorem check_rounded (s : Scope) (path : String) (n : Number) :
    (∀ m, s.resolve path = some (.number m) →
      (∀ op related, op.relation? = some related →
        check ⟨path, op, some (.number n)⟩ s = .ok (related m.rounded n.rounded)) ∧
      ((∀ op related, op.relation? = some related →
        check ⟨path, op, some (.number n)⟩ s = .ok (related m.value n.value)) ↔
          (m.rounded = n.rounded → m.value = n.value))) ∧
    (∀ items, s.resolve path = some (.array items) →
      ∃ b, check ⟨path, .contains, some (.number n)⟩ s = .ok b ∧
        (b = true ↔ ∃ m, .number m ∈ items ∧ m.rounded = n.rounded) ∧
        ((b = true ↔ ∃ m, .number m ∈ items ∧ m.value = n.value) ↔
          ((∃ m, .number m ∈ items ∧ m.rounded = n.rounded) → ∃ m, .number m ∈ items ∧ m.value = n.value))) ∧
    Binary64.Nearest n.value n.toBinary64 ∧
    (n.rounded = n.value ↔ ∃ x : Binary64, x.value = n.value) ∧
    (∀ k : ℤ, |k| ≤ 2 ^ 53 → (Number.integer k).rounded = k) := by
  refine ⟨?_, ?_, n.nearest_toBinary64, Number.rounded_eq_value_iff, fun k hk => Number.rounded_integer hk⟩
  · intro m hm
    refine ⟨fun op related hop => check_of_numbers hm rfl hop, ?_, ?_⟩
    · intro exactly same
      have equal := (check_of_numbers hm rfl rfl).symm.trans (exactly .equals _ rfl)
      exact (decide_eq_decide.1 (Except.ok.inj equal)).1 same
    · intro apart op related hop
      rw [check_of_numbers hm rfl hop, related_rounded apart hop]
  · intro items hi
    obtain ⟨b, checked, found⟩ := check_contains (c := ⟨path, .contains, some (.number n)⟩) rfl hi rfl
    have kept : (∃ m, .number m ∈ items ∧ m.value = n.value) →
        ∃ m, .number m ∈ items ∧ m.rounded = n.rounded :=
      fun ⟨m, hm, same⟩ => ⟨m, hm, Number.rounded_congr same⟩
    refine ⟨b, checked, found, ?_, ?_⟩
    · intro exactly near
      exact exactly.1 (found.2 near)
    · intro apart
      exact found.trans ⟨apart, kept⟩

def distantIds : Number × Number := (.integer 9007199254740992, .integer 9007199254740995)

theorem check_rounded_distantIds :
    check ⟨"id", .less, some (.number distantIds.2)⟩
        (.root (.object [("id", .number distantIds.1)])) = .ok true ∧
      (∃ b, check ⟨"ids", .contains, some (.number distantIds.2)⟩
          (.root (.object [("ids", .array [.null, .number distantIds.1])])) = .ok b ∧
        (b = true ↔ ∃ m, .number m ∈ [Json.null, .number distantIds.1] ∧ m.value = distantIds.2.value)) ∧
      (Number.integer 5).rounded = 5 := by
  have apart : distantIds.1.rounded ≠ distantIds.2.rounded :=
    fun same => absurd (Binary64.value_inj.1 same) (by decide +kernel)
  obtain ⟨compared, -⟩ := check_rounded (.root (.object [("id", .number distantIds.1)])) "id" distantIds.2
  obtain ⟨-, found, -, -, short⟩ :=
    check_rounded (.root (.object [("ids", .array [.null, .number distantIds.1])])) "ids" distantIds.2
  refine ⟨?_, ?_, short 5 (by decide)⟩
  · have less : distantIds.1.value < distantIds.2.value := Int.cast_lt.2 (by decide)
    have exactly := (compared distantIds.1 rfl).2.2 fun same => absurd same apart
    rw [exactly .less _ rfl]
    exact congrArg Except.ok (decide_eq_true less)
  · obtain ⟨b, checked, -, exactly⟩ := found [.null, .number distantIds.1] rfl
    refine ⟨b, checked, exactly.2 ?_⟩
    rintro ⟨m, hm, same⟩
    obtain rfl : m = distantIds.1 := by simpa using hm
    exact absurd same apart

def neighbouringIds : Number × Number := (.integer 9007199254740992, .integer 9007199254740993)

theorem check_neighbouringIds :
    neighbouringIds.1.value < neighbouringIds.2.value ∧
      Condition.check ⟨"id", .equals, some (.number neighbouringIds.2)⟩
        (.root (.object [("id", .number neighbouringIds.1)])) = .ok true ∧
      Condition.check ⟨"id", .less, some (.number neighbouringIds.2)⟩
        (.root (.object [("id", .number neighbouringIds.1)])) = .ok false := by
  have one : neighbouringIds.1.toBinary64 = neighbouringIds.2.toBinary64 := by decide +kernel
  have same : neighbouringIds.1.rounded = neighbouringIds.2.rounded := congrArg Binary64.value one
  refine ⟨Int.cast_lt.2 (by decide), ?_, ?_⟩
  · rw [check_of_numbers (m := neighbouringIds.1) rfl rfl rfl]
    exact congrArg Except.ok (decide_eq_true same)
  · rw [check_of_numbers (m := neighbouringIds.1) rfl rfl rfl]
    exact congrArg Except.ok (decide_eq_false same.not_lt)

end Condition

def Scope.Satisfies (s : Scope) (path : String) (op : Operator) (expected : Option Json) : Prop :=
  Condition.check ⟨path, op, expected⟩ s = .ok true

namespace Scope

variable {s : Scope} {path : String} {op : Operator} {m n : Number} {related : ℚ → ℚ → Bool}

theorem satisfies_iff (hm : s.resolve path = some (.number m)) (hop : op.relation? = some related) :
    s.Satisfies path op (some (.number n)) ↔ related m.rounded n.rounded = true := by
  rw [Satisfies, Condition.check_of_numbers hm rfl hop, Except.ok.injEq]

theorem satisfies_less_iff (hm : s.resolve path = some (.number m)) :
    s.Satisfies path .less (some (.number n)) ↔ m.rounded < n.rounded :=
  (satisfies_iff hm rfl).trans decide_eq_true_iff

theorem satisfies_equals_iff (hm : s.resolve path = some (.number m)) :
    s.Satisfies path .equals (some (.number n)) ↔ m.rounded = n.rounded :=
  (satisfies_iff hm rfl).trans decide_eq_true_iff

theorem satisfies_greater_iff (hm : s.resolve path = some (.number m)) :
    s.Satisfies path .greater (some (.number n)) ↔ m.rounded > n.rounded :=
  (satisfies_iff hm rfl).trans decide_eq_true_iff

theorem exists_unique_satisfies (hm : s.resolve path = some (.number m)) :
    ∃! op, op ∈ [Operator.less, .equals, .greater] ∧ s.Satisfies path op (some (.number n)) := by
  have only {op : Operator} (less : m.rounded < n.rounded → op = .less)
      (equal : m.rounded = n.rounded → op = .equals) (greater : m.rounded > n.rounded → op = .greater)
      (other : Operator) (h : other ∈ [Operator.less, .equals, .greater] ∧
        s.Satisfies path other (some (.number n))) : other = op := by
    obtain ⟨listed, holds⟩ := h
    simp only [List.mem_cons, List.not_mem_nil, or_false] at listed
    rcases listed with rfl | rfl | rfl
    · exact (less ((satisfies_less_iff hm).1 holds)).symm
    · exact (equal ((satisfies_equals_iff hm).1 holds)).symm
    · exact (greater ((satisfies_greater_iff hm).1 holds)).symm
  rcases lt_trichotomy m.rounded n.rounded with h | h | h
  · exact ⟨.less, ⟨by simp, (satisfies_less_iff hm).2 h⟩,
      only (fun _ => rfl) (fun g => absurd g h.ne) (fun g => absurd g h.not_gt)⟩
  · exact ⟨.equals, ⟨by simp, (satisfies_equals_iff hm).2 h⟩,
      only (fun g => absurd h g.ne) (fun _ => rfl) (fun g => absurd h g.ne')⟩
  · exact ⟨.greater, ⟨by simp, (satisfies_greater_iff hm).2 h⟩,
      only (fun g => absurd g h.not_gt) (fun g => absurd g h.ne') (fun _ => rfl)⟩

theorem check_of_not_numbers {w : Option Json}
    (hop : op ∈ [Operator.greater, .less, .greaterOrEqual, .lessOrEqual])
    (h : ∀ m n, ¬ (s.resolve path = some (.number m) ∧ w = some (.number n))) :
    Condition.check ⟨path, op, w⟩ s = .ok false := by
  have none (related : ℤ → ℤ → Bool) : Condition.compares related (s.resolve path) w = false := by
    rw [Condition.compares]
    intro m n hm hn
    exact h m n ⟨hm, hn⟩
  simp only [List.mem_cons, List.not_mem_nil, or_false] at hop
  rcases hop with rfl | rfl | rfl | rfl <;> simp only [Condition.check, none]

theorem comparisons_consistent :
    (Equivalence fun v w : Option Json => strictEq v w = true) ∧
    (∀ (s : Scope) (path : String) (m n : Number), s.resolve path = some (.number m) →
      (∃! op, op ∈ [Operator.less, .equals, .greater] ∧ s.Satisfies path op (some (.number n))) ∧
      (s.Satisfies path .greaterOrEqual (some (.number n)) ↔ ¬ s.Satisfies path .less (some (.number n))) ∧
      (s.Satisfies path .lessOrEqual (some (.number n)) ↔ ¬ s.Satisfies path .greater (some (.number n)))) ∧
    (∀ (s t : Scope) (path other : String) (l m n : Number),
      s.resolve path = some (.number l) → t.resolve other = some (.number m) →
      s.Satisfies path .less (some (.number m)) → t.Satisfies other .less (some (.number n)) →
        s.Satisfies path .less (some (.number n))) ∧
    (∀ (s t : Scope) (path other : String) (m m' n n' : Number) (op : Operator),
      s.resolve path = some (.number m) → t.resolve other = some (.number m') →
      strictEq (some (.number m)) (some (.number m')) = true →
      strictEq (some (.number n)) (some (.number n')) = true → op.relation?.isSome →
        Condition.check ⟨path, op, some (.number n)⟩ s = Condition.check ⟨other, op, some (.number n')⟩ t) ∧
    (∀ (s : Scope) (path : String) (op : Operator) (w : Option Json),
      op ∈ [Operator.greater, .less, .greaterOrEqual, .lessOrEqual] →
      (∀ m n, ¬ (s.resolve path = some (.number m) ∧ w = some (.number n))) →
        Condition.check ⟨path, op, w⟩ s = .ok false) := by
  refine ⟨strictEq_equivalence, ?_, ?_, ?_, fun _ _ _ _ hop h => check_of_not_numbers hop h⟩
  · intro s path m n hm
    refine ⟨exists_unique_satisfies hm, ?_, ?_⟩
    · rw [satisfies_less_iff hm, satisfies_iff hm rfl, decide_eq_true_iff, not_lt]
    · rw [satisfies_greater_iff hm, satisfies_iff hm rfl, decide_eq_true_iff, gt_iff_lt, not_lt]
  · intro s t path other l m n hl hm first second
    rw [satisfies_less_iff hl] at first ⊢
    exact first.trans ((satisfies_less_iff hm).1 second)
  · intro s t path other m m' n n' op hm hm' actual expected hop
    obtain ⟨related, hop⟩ := Option.isSome_iff_exists.1 hop
    have sameActual := (Json.strictEq_number m m').1 actual
    have sameExpected := (Json.strictEq_number n n').1 expected
    rw [Condition.check_of_numbers hm rfl hop, Condition.check_of_numbers hm' rfl hop, sameActual,
      sameExpected]

def countPage : Scope :=
  .root (.object [("count", .number (.integer 5)), ("label", .string "5"), ("more", .number (.integer 6)),
    ("whole", .number (.float (Binary64.ofInt 5)))])

theorem comparisons_consistent_countPage :
    (∃! op, op ∈ [Operator.less, .equals, .greater] ∧
      countPage.Satisfies "whole" op (some (.number (.integer 7)))) ∧
    countPage.Satisfies "count" .less (some (.number (.integer 7))) ∧
    Condition.check ⟨"count", .greaterOrEqual, some (.number (.integer 6))⟩ countPage
      = Condition.check ⟨"whole", .greaterOrEqual, some (.number (.integer 6))⟩ countPage ∧
    Condition.check ⟨"label", .greaterOrEqual, some (.number (.integer 5))⟩ countPage = .ok false := by
  obtain ⟨equal, numbers, transitive, replaced, others⟩ := comparisons_consistent
  have count : countPage.resolve "count" = some (.number (.integer 5)) := rfl
  have more : countPage.resolve "more" = some (.number (.integer 6)) := rfl
  have whole : countPage.resolve "whole" = some (.number (.float (Binary64.ofInt 5))) := rfl
  have five : (Number.integer 5).rounded = 5 := Number.rounded_integer (by decide)
  have six : (Number.integer 6).rounded = 6 := Number.rounded_integer (by decide)
  have seven : (Number.integer 7).rounded = 7 := Number.rounded_integer (by decide)
  refine ⟨(numbers _ _ _ _ whole).1, ?_, ?_, ?_⟩
  · apply transitive _ _ _ _ _ _ _ count more
    · rw [satisfies_less_iff count, five, six]
      norm_num
    · rw [satisfies_less_iff more, six, seven]
      norm_num
  · have same : strictEq (some (.number (.integer 5))) (some (.number (.float (Binary64.ofInt 5)))) = true :=
      (Json.strictEq_number _ _).2 rfl
    exact replaced _ _ _ _ _ _ _ _ _ count whole same (equal.refl _) rfl
  · apply others _ _ _ _ (by decide)
    rintro m n ⟨hm, -⟩
    cases hm

end Scope

end Storefront
