namespace Storefront.Text

def isBlank (c : Char) : Bool :=
  let n := c.toNat
  (9 ≤ n && n ≤ 13) || n == 0x20 || n == 0x85 || n == 0xA0 || n == 0x1680 ||
    (0x2000 ≤ n && n ≤ 0x200A) || n == 0x2028 || n == 0x2029 || n == 0x202F ||
    n == 0x205F || n == 0x3000

def trim (s : List Char) : List Char :=
  ((s.dropWhile isBlank).reverse.dropWhile isBlank).reverse

theorem trim_eq_nil_of_blank {s : List Char} (h : ∀ c ∈ s, isBlank c = true) : trim s = [] := by
  have : s.dropWhile isBlank = [] := by
    induction s with
    | nil => rfl
    | cons c r ih =>
        simp only [List.dropWhile_cons, h c (List.mem_cons_self ..), if_true]
        exact ih fun d hd => h d (List.mem_cons_of_mem _ hd)
  simp [trim, this]

end Storefront.Text
