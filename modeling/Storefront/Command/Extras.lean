import Storefront.Dictionary
import Storefront.Text.Search

namespace Storefront.Command

def extraName? (argument : String) : Option String :=
  let s := argument.toList
  ((Text.after? "--extra-".toList s).or (Text.after? "--extras-".toList s)).map String.ofList

def isHyphenated (argument : String) : Bool := argument.toList.head? == some '-'

def separate : List String → List String × List (String × String)
  | [] => ([], [])
  | argument :: rest =>
      match extraName? argument with
      | none =>
          let (ordinary, extras) := separate rest
          (argument :: ordinary, extras)
      | some name =>
          match rest with
          | [] => ([], [(name, "true")])
          | value :: further =>
              if isHyphenated value then
                let (ordinary, extras) := separate (value :: further)
                (ordinary, (name, "true") :: extras)
              else
                let (ordinary, extras) := separate further
                (ordinary, (name, value) :: extras)

def splitExtras (arguments : List String) : List String × Dictionary String :=
  let (ordinary, extras) := separate arguments
  (ordinary, Dictionary.ofList extras)

theorem separate_ordinary {arguments : List String} (h : ∀ a ∈ arguments, extraName? a = none) :
    separate arguments = (arguments, []) := by
  induction arguments with
  | nil => rfl
  | cons a rest ih =>
      have ha : extraName? a = none := h a (List.mem_cons_self ..)
      have hrest := ih fun b hb => h b (List.mem_cons_of_mem _ hb)
      simp only [separate, ha, hrest]

end Storefront.Command
