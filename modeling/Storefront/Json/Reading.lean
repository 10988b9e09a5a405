import Storefront.Json.Record

namespace Storefront.Json

structure Reading (α : Type) where
  result : α
  skipped : List Malformed := []
  deriving Repr

namespace Reading

variable {α β : Type}

def map (f : α → β) (r : Reading α) : Reading β := ⟨f r.result, r.skipped⟩

def cons (entry : Reading (Except Malformed α)) (rest : Reading (List α)) : Reading (List α) :=
  match entry.result with
  | .ok a => ⟨a :: rest.result, entry.skipped ++ rest.skipped⟩
  | .error cause => ⟨rest.result, entry.skipped ++ cause :: rest.skipped⟩

def list (read : Json → Except Malformed α) : Json → Reading (List α)
  | .array items => items.foldr (fun v rest => cons ⟨read v, []⟩ rest) ⟨[], []⟩
  | _ => ⟨[], []⟩

theorem result_list_array (read : Json → Except Malformed α) (items : List Json) :
    (list read (.array items)).result = items.filterMap fun v => (read v).toOption := by
  simp only [list]
  induction items with
  | nil => rfl
  | cons v rest ih =>
      rw [List.foldr_cons, List.filterMap_cons, cons]
      cases read v <;> simp only [Except.toOption, ih]

end Reading

end Storefront.Json
