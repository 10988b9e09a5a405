import Storefront.Block.Basic

namespace Storefront.Key

def ofBlock (b : Block) (index : Nat) : String :=
  match b.explicitId.or b.host.id with
  | some id => id
  | none => (b.type.filter fun type => !type.isEmpty).getD "block" ++ "-" ++ toString index

def distinguish (taken : List String) (mark : String) : Nat → String → String
  | 0, key => key
  | fuel + 1, key => if key ∈ taken then distinguish taken mark fuel (key ++ mark) else key

def siblingsFrom (taken : List String) (index : Nat) : List Block → List String
  | [] => []
  | b :: rest =>
      let key := distinguish taken ("~" ++ toString index) taken.length (ofBlock b index)
      key :: siblingsFrom (key :: taken) (index + 1) rest

def siblings (blocks : List Block) : List String := siblingsFrom [] 0 blocks

def under (parent : Option String) (key : String) : String :=
  match parent with
  | some parent => if parent.isEmpty then key else parent ++ "/" ++ key
  | none => key

theorem length_siblingsFrom (taken : List String) (index : Nat) (blocks : List Block) :
    (siblingsFrom taken index blocks).length = blocks.length := by
  induction blocks generalizing taken index with
  | nil => rfl
  | cons b rest ih => simp [siblingsFrom, ih]

theorem ofBlock_ne_empty (b : Block) (index : Nat) : ofBlock b index ≠ "" := by
  simp only [ofBlock]
  split
  · rename_i id hid
    rintro rfl
    rcases Option.or_eq_some_iff.1 hid with he | ⟨-, hw⟩
    · simp [Block.explicitId, Option.filter_eq_some_iff] at he
    · exact Wrapper.id_ofText? b.wrapper hw
  · intro he
    have := congrArg String.toList he
    simp at this

theorem under_of_ne {parent : String} (h : parent ≠ "") (key : String) :
    under (some parent) key = parent ++ "/" ++ key := by
  simp [under, h]

theorem under_ne_empty {parent : String} (h : parent ≠ "") (key : String) :
    under (some parent) key ≠ "" := by
  rw [under_of_ne h]
  intro he
  have := congrArg String.toList he
  simp at this

end Storefront.Key
