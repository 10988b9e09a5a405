import Storefront.Path

namespace Storefront

structure Scope where
  page : Json
  layers : List (Dictionary Json) := []

namespace Scope

def root (page : Json) : Scope := { page }

def push (s : Scope) (layer : Dictionary Json) : Scope := { s with layers := layer :: s.layers }

def depth (s : Scope) : Nat := s.layers.length

def lookup (s : Scope) (name : String) : Option Json :=
  (s.layers.findSome? (Dictionary.get? name)).or (s.page.field? name)

def resolve (s : Scope) (path : String) : Option Json := Path.resolveWith s.lookup path

def flatten (s : Scope) : Dictionary Json :=
  s.layers.foldr (fun layer below => below.overlay layer) (s.page.asObject?.getD [])

@[simp] theorem lookup_root (page : Json) (name : String) :
    (root page).lookup name = page.field? name := rfl

theorem lookup_push (s : Scope) (layer : Dictionary Json) (name : String) :
    (s.push layer).lookup name = (layer.get? name).or (s.lookup name) := by
  simp only [lookup, push, List.findSome?_cons]
  cases layer.get? name <;> rfl

theorem get?_flatten {s : Scope} (h : ∀ layer ∈ s.layers, layer.Sorted) (name : String) :
    s.flatten.get? name = s.lookup name := by
  obtain ⟨page, layers⟩ := s
  induction layers with
  | nil => cases page <;> rfl
  | cons layer rest ih =>
      have ihs := ih fun l hl => h l (List.mem_cons_of_mem _ hl)
      have top : layer.Sorted := h layer (List.mem_cons_self ..)
      change (Dictionary.overlay _ layer).get? name = ((Scope.mk page rest).push layer).lookup name
      rw [Dictionary.get?_overlay name _ top, lookup_push, ← ihs]
      rfl

end Scope

def resolveIn (page context : Json) (path : String) : Option Json :=
  Path.resolveWith (fun name => (context.field? name).or (page.field? name)) path

end Storefront
