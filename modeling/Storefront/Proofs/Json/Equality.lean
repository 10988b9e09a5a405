import Mathlib.Data.List.Forall2
import Storefront.Condition.Evaluation
import Storefront.Proofs.Json.Canonical
import Storefront.Proofs.Json.Number

namespace Storefront

def Binary64.normal (x : Binary64) : Binary64 := ⟨x.ordinal < 0, x.ordinal.natAbs⟩

theorem Binary64.same_iff_normal {x y : Binary64} : x.same y = true ↔ x.normal = y.normal := by
  rw [same_iff, normal, normal, mk.injEq, decide_eq_decide]
  omega

def Number.normal : Number → Number
  | .integer n => .integer n
  | .float x => .float x.normal

theorem Number.same_iff_normal {m n : Number} : m.same n = true ↔ m.normal = n.normal := by
  cases m <;> cases n <;> simp [same, normal, Binary64.same_iff_normal]

theorem Dictionary.isSome_get?_iff {α : Type} {key : String} {d : Dictionary α} :
    (d.get? key).isSome = true ↔ key ∈ d.keys := by
  induction d with
  | nil => simp [keys]
  | cons e rest ih =>
      obtain ⟨k, v⟩ := e
      by_cases hk : k = key
      · simp [get?, keys, hk]
      · simpa [get?, keys, hk, Ne.symm hk] using ih

namespace Json

mutual
def normal : Json → Json
  | .number n => .number n.normal
  | .array items => .array (normalItems items)
  | .object entries => .object (normalEntries entries)
  | v => v

def normalItems : List Json → List Json
  | [] => []
  | v :: rest => v.normal :: normalItems rest

def normalEntries : List (String × Json) → List (String × Json)
  | [] => []
  | (k, v) :: rest => (k, v.normal) :: normalEntries rest
end

mutual
theorem same_iff_normal (v w : Json) : v.same w = true ↔ v.normal = w.normal := by
  cases v with
  | array xs => cases w <;> simp [same, normal, sameItems_iff_normal xs]
  | object xs => cases w <;> simp [same, normal, sameEntries_iff_normal xs]
  | number m => cases w <;> simp [same, normal, Number.same_iff_normal]
  | _ => cases w <;> simp [same, normal]

theorem sameItems_iff_normal (xs ys : List Json) :
    sameItems xs ys = true ↔ normalItems xs = normalItems ys := by
  cases xs with
  | nil => cases ys <;> simp [sameItems, normalItems]
  | cons x xs =>
      cases ys with
      | nil => simp [sameItems, normalItems]
      | cons y ys => simp [sameItems, normalItems, same_iff_normal x, sameItems_iff_normal xs]

theorem sameEntries_iff_normal (xs ys : List (String × Json)) :
    sameEntries xs ys = true ↔ normalEntries xs = normalEntries ys := by
  cases xs with
  | nil => cases ys <;> simp [sameEntries, normalEntries]
  | cons x xs =>
      obtain ⟨j, x⟩ := x
      cases ys with
      | nil => simp [sameEntries, normalEntries]
      | cons y ys =>
          obtain ⟨k, y⟩ := y
          simp [sameEntries, normalEntries, same_iff_normal x, sameEntries_iff_normal xs, and_assoc]
end

/-- What strict equality looks at: of a number what it is rounded to, of another value all but the sign of
zeros. -/
def face : Json → ℚ ⊕ Json
  | .number n => .inl n.rounded
  | v => .inr v.normal

theorem strictEq_number (m n : Number) :
    (number m).strictEq (.number n) = true ↔ m.rounded = n.rounded := by
  rw [strictEq, Binary64.same_iff, ← Binary64.value_inj]
  rfl

theorem strictEq_iff_face (v w : Json) : v.strictEq w = true ↔ v.face = w.face := by
  cases v with
  | number m =>
      cases w with
      | number n => rw [strictEq_number, face, face, Sum.inl.injEq]
      | _ => simp [strictEq, same, face]
  | _ =>
      cases w with
      | number n => simp [strictEq, same, face]
      | _ => simp only [strictEq, same_iff_normal, face, Sum.inr.injEq]

end Json

theorem strictEq_iff_face (v w : Option Json) :
    strictEq v w = true ↔ v.map Json.face = w.map Json.face := by
  cases v <;> cases w <;> simp [strictEq, Json.strictEq_iff_face]

theorem strictEq_equivalence : Equivalence fun v w : Option Json => strictEq v w = true where
  refl v := (strictEq_iff_face v v).2 rfl
  symm h := (strictEq_iff_face _ _).2 ((strictEq_iff_face _ _).1 h).symm
  trans h i := (strictEq_iff_face _ _).2 (((strictEq_iff_face _ _).1 h).trans ((strictEq_iff_face _ _).1 i))

namespace Json

/-- If two values are numbers, then of one kind and of one exact value. -/
def NumbersAgree (v w : Json) : Prop :=
  ∀ m n, v = .number m → w = .number n → m.isFloat = n.isFloat ∧ m.value = n.value

structure EqualWithin (v w : Json) : Prop where
  equal : v.strictEq w = true
  numbers : v.NumbersAgree w

theorem equalWithin_iff {v w : Json} : v.EqualWithin w ↔ v.strictEq w = true ∧ v.NumbersAgree w :=
  ⟨fun h => ⟨h.equal, h.numbers⟩, fun h => ⟨h.1, h.2⟩⟩

theorem equalWithin_iff_same {v w : Json} : v.EqualWithin w ↔ v.same w = true := by
  constructor
  · rintro ⟨equal, numbers⟩
    cases v with
    | number m =>
        cases w with
        | number n => exact Number.same_iff.2 (numbers m n rfl rfl)
        | _ => simpa [strictEq] using equal
    | _ => cases w <;> simpa [strictEq] using equal
  · intro h
    refine ⟨?_, ?_⟩
    · cases v with
      | number m =>
          cases w with
          | number n =>
              rw [strictEq_number]
              exact Number.rounded_congr (Number.same_iff.1 h).2
          | _ => cases h
      | _ => cases w <;> simpa [strictEq] using h
    · rintro m n rfl rfl
      exact Number.same_iff.1 h

theorem sameItems_iff (xs ys : List Json) :
    sameItems xs ys = true ↔ List.Forall₂ EqualWithin xs ys := by
  induction xs generalizing ys with
  | nil => cases ys <;> simp [sameItems]
  | cons x xs ih => cases ys <;> simp [sameItems, ih, equalWithin_iff_same]

theorem rel_get?_of_sameEntries {xs ys : Dictionary Json} (h : sameEntries xs ys = true) (key : String) :
    Option.Rel EqualWithin (xs.get? key) (ys.get? key) := by
  induction xs generalizing ys with
  | nil =>
      cases ys with
      | nil => exact .none
      | cons y ys => cases h
  | cons x xs ih =>
      obtain ⟨j, x⟩ := x
      cases ys with
      | nil => cases h
      | cons y ys =>
          obtain ⟨k, y⟩ := y
          simp only [sameEntries, Bool.and_eq_true, beq_iff_eq] at h
          obtain ⟨⟨rfl, first⟩, rest⟩ := h
          rw [Dictionary.get?, Dictionary.get?]
          split
          · exact .some (equalWithin_iff_same.2 first)
          · exact ih rest

theorem mem_keys_iff_of_rel {xs ys : Dictionary Json} {key : String}
    (h : Option.Rel EqualWithin (xs.get? key) (ys.get? key)) : key ∈ xs.keys ↔ key ∈ ys.keys := by
  have found {a b : Option Json} (h : Option.Rel EqualWithin a b) : a.isSome = b.isSome := by
    cases h <;> rfl
  rw [← Dictionary.isSome_get?_iff, ← Dictionary.isSome_get?_iff, found h]

theorem head_eq_of_mem {j k : String} {x y : Json} {xs ys : Dictionary Json}
    (hx : Dictionary.Sorted ((j, x) :: xs)) (hy : Dictionary.Sorted ((k, y) :: ys))
    (hj : j ∈ Dictionary.keys ((k, y) :: ys)) (hk : k ∈ Dictionary.keys ((j, x) :: xs)) : j = k := by
  rcases List.mem_cons.1 hj with same | later
  · exact same
  rcases List.mem_cons.1 hk with same | earlier
  · exact same.symm
  have after : k < j := (List.pairwise_cons.1 hy).1 j later
  have before : j < k := (List.pairwise_cons.1 hx).1 k earlier
  exact absurd (String.lt_trans before after) (String.lt_irrefl j)

theorem sameEntries_iff {xs ys : Dictionary Json} (hx : xs.Sorted) (hy : ys.Sorted) :
    sameEntries xs ys = true ↔ ∀ key, Option.Rel EqualWithin (xs.get? key) (ys.get? key) := by
  refine ⟨rel_get?_of_sameEntries, fun h => ?_⟩
  induction xs generalizing ys with
  | nil =>
      cases ys with
      | nil => rfl
      | cons y ys => exact absurd ((mem_keys_iff_of_rel (h y.1)).2 (List.mem_cons_self ..)) List.not_mem_nil
  | cons x xs ih =>
      obtain ⟨j, x⟩ := x
      cases ys with
      | nil => exact absurd ((mem_keys_iff_of_rel (h j)).1 (List.mem_cons_self ..)) List.not_mem_nil
      | cons y ys =>
          obtain ⟨k, y⟩ := y
          have hj := (mem_keys_iff_of_rel (h j)).1 (List.mem_cons_self ..)
          have hk := (mem_keys_iff_of_rel (h k)).2 (List.mem_cons_self ..)
          obtain rfl : j = k := head_eq_of_mem hx hy hj hk
          obtain ⟨freshX, laterX⟩ := List.pairwise_cons.1 hx
          obtain ⟨freshY, laterY⟩ := List.pairwise_cons.1 hy
          have first : Option.Rel EqualWithin (some x) (some y) := by simpa [Dictionary.get?] using h j
          have rest (key : String) : Option.Rel EqualWithin (Dictionary.get? key xs) (Dictionary.get? key ys) := by
            by_cases hk : j = key
            · subst hk
              have absent {zs : Dictionary Json} (fresh : ∀ k ∈ zs.keys, j < k) : zs.get? j = none :=
                Dictionary.get?_eq_none fun hj => String.lt_irrefl j (fresh j hj)
              rw [absent freshX, absent freshY]
              exact .none
            · simpa [Dictionary.get?, hk] using h key
          cases first with
          | some equal =>
              simp only [sameEntries, Bool.and_eq_true, beq_self_eq_true, true_and]
              exact ⟨equalWithin_iff_same.1 equal, ih laterX laterY rest⟩

theorem forall₂_equalWithin_iff {xs ys : List Json} : List.Forall₂ EqualWithin xs ys ↔
    List.Forall₂ (fun v w => v.strictEq w = true) xs ys ∧ List.Forall₂ NumbersAgree xs ys := by
  induction xs generalizing ys with
  | nil => cases ys <;> simp
  | cons x xs ih => cases ys <;> simp [ih, equalWithin_iff, and_and_and_comm]

theorem rel_equalWithin_iff {a b : Option Json} : Option.Rel EqualWithin a b ↔
    Option.Rel (fun v w => v.strictEq w = true) a b ∧
      ∀ v w, a = some v → b = some w → v.NumbersAgree w := by
  cases a <;> cases b <;> simp [equalWithin_iff]

theorem strictEq_containers (xs ys : List Json) (ds es : Dictionary Json) (hd : ds.Sorted) (he : es.Sorted) :
    ((array xs).strictEq (.array ys) = true ↔
      List.Forall₂ (fun v w => v.strictEq w = true) xs ys ∧ List.Forall₂ NumbersAgree xs ys) ∧
    ((object ds).strictEq (.object es) = true ↔
      (∀ key, Option.Rel (fun v w => v.strictEq w = true) (ds.get? key) (es.get? key)) ∧
      ∀ key v w, ds.get? key = some v → es.get? key = some w → v.NumbersAgree w) ∧
    (∀ m n, (number m).strictEq (.number n) = true ↔ m.rounded = n.rounded) ∧
    ∀ (c : Condition) (s : Scope) (v w : Json), s.resolve c.field = some v → c.value = some w →
      (c.op = .equals → (c.check s = .ok true ↔ v.strictEq w = true)) ∧
      (c.op = .notEquals → (c.check s = .ok true ↔ ¬ v.strictEq w = true)) ∧
      (c.op = .contains → ∀ items, v = .array items →
        (c.check s = .ok true ↔ ∃ item ∈ items, item.strictEq w = true)) := by
  refine ⟨(sameItems_iff xs ys).trans forall₂_equalWithin_iff, ?_, strictEq_number, ?_⟩
  · refine (sameEntries_iff hd he).trans ?_
    simp only [rel_equalWithin_iff, forall_and]
  · intro c s v w hv hw
    refine ⟨fun op => ?_, fun op => ?_, fun op items harray => ?_⟩
    · simp [Condition.check, op, hv, hw, Storefront.strictEq]
    · simp [Condition.check, op, hv, hw, Storefront.strictEq]
    · subst harray
      simp [Condition.check, op, hv, hw, Condition.includes]

def fives : Number × Number := (.integer 5, .float (Binary64.ofInt 5))

def zeroSizes : Dictionary Json × Dictionary Json :=
  ([("size", .number (.float ⟨false, 0⟩))], [("size", .number (.float ⟨true, 0⟩))])

theorem strictEq_containers_zeroSizes :
    (object zeroSizes.1).strictEq (.object zeroSizes.2) = true ∧
      (∀ key, Option.Rel (fun v w : Json => v.strictEq w = true)
        (zeroSizes.1.get? key) (zeroSizes.2.get? key)) ∧
      Condition.check ⟨"sizes", .contains, some (.number fives.1)⟩
        (.root (.object [("sizes", .array [.number fives.2])])) = .ok true ∧
      Condition.check ⟨"sizes", .contains, some (.array [.number fives.1])⟩
        (.root (.object [("sizes", .array [.array [.number fives.2]])])) ≠ .ok true := by
  have sorted (v : Json) : Dictionary.Sorted [("size", v)] := List.pairwise_singleton ..
  obtain ⟨arrays, objects, numbers, conditions⟩ :=
    strictEq_containers [.number fives.2] [.number fives.1] zeroSizes.1 zeroSizes.2 (sorted _) (sorted _)
  have zeros : (object zeroSizes.1).strictEq (.object zeroSizes.2) = true := rfl
  have five : (number fives.2).strictEq (.number fives.1) = true := (numbers ..).2 rfl
  refine ⟨zeros, (objects.1 zeros).1, ?_, ?_⟩
  · exact ((conditions _ _ _ _ rfl rfl).2.2 rfl _ rfl).2 ⟨_, List.mem_singleton_self _, five⟩
  · rw [Ne, (conditions _ _ _ _ rfl rfl).2.2 rfl _ rfl]
    rintro ⟨item, hitem, equal⟩
    obtain rfl := List.mem_singleton.1 hitem
    -- the fives are equal, but one is a float
    obtain ⟨-, agree⟩ := arrays.1 equal
    cases agree with
    | cons kinds _ => exact absurd (kinds _ _ rfl rfl).1 (by decide)

theorem strictEq_fives :
    (number fives.1).strictEq (.number fives.2) = true ∧
      (array [.number fives.1]).strictEq (.array [.number fives.2]) = false ∧
      (object [("size", .number fives.1)]).strictEq (.object [("size", .number fives.2)]) = false := by
  refine ⟨?_, rfl, rfl⟩
  rw [strictEq_number]
  rfl

end Json

end Storefront
