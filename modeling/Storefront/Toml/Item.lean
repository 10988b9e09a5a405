import Storefront.Dictionary
import Storefront.Toml.Value

namespace Storefront.Toml

inductive Origin where
  | header
  | implied
  | dotted
  deriving DecidableEq, Repr

inductive Item where
  | value (v : Value)
  | table (origin : Origin) (entries : List (String × Item))
  | tables (elements : List (List (String × Item)))
  deriving Repr, Inhabited

namespace Item

def descend (made : Origin) (change : Bool → Dictionary Item → Option (Dictionary Item)) :
    List String → Bool → Dictionary Item → Option (Dictionary Item)
  | [], isDotted, entries => change isDotted entries
  | key :: path, _, entries =>
      match entries.get? key with
      | none =>
          (descend made change path (made == .dotted) []).map fun below =>
            entries.insert key (.table made below)
      | some (.value _) => none
      | some (.tables elements) =>
          match elements.getLast? with
          | none => none
          | some last =>
              (descend made change path false last).map fun below =>
                entries.insert key (.tables (elements.dropLast ++ [below]))
      | some (.table origin below) =>
          if made = .dotted ∧ origin = .header then none
          else
            (descend made change path (origin == .dotted) below).map fun below =>
              entries.insert key (.table origin below)

def assign (path : List String) (key : String) (v : Value) (entries : Dictionary Item) :
    Option (Dictionary Item) :=
  let put (isDotted : Bool) (entries : Dictionary Item) : Option (Dictionary Item) :=
    if isDotted = path.isEmpty then none
    else if (entries.get? key).isSome then none
    else some (entries.insert key (.value v))
  descend .dotted put path false entries

def openTable (path : List String) (key : String) (entries : Dictionary Item) :
    Option (Dictionary Item) :=
  let put (_ : Bool) (entries : Dictionary Item) : Option (Dictionary Item) :=
    match entries.get? key with
    | none => some (entries.insert key (.table .header []))
    | some (.table .implied below) => some (entries.insert key (.table .header below))
    | some _ => none
  descend .implied put path false entries

def openElement (path : List String) (key : String) (entries : Dictionary Item) :
    Option (Dictionary Item) :=
  let put (_ : Bool) (entries : Dictionary Item) : Option (Dictionary Item) :=
    match entries.get? key with
    | none => some (entries.insert key (.tables [[]]))
    | some (.tables elements) => some (entries.insert key (.tables (elements ++ [[]])))
    | some _ => none
  descend .implied put path false entries

def assignUnder (header path : List String) (key : String) (v : Value) (entries : Dictionary Item) :
    Option (Dictionary Item) :=
  descend .implied (fun _ below => assign path key v below) header false entries

mutual
def toValue : Item → Value
  | .value v => v
  | .table _ entries => .table (toValues entries)
  | .tables elements => .array (toTables elements)

def toValues : List (String × Item) → List (String × Value)
  | [] => []
  | (key, item) :: rest => (key, item.toValue) :: toValues rest

def toTables : List (List (String × Item)) → List Value
  | [] => []
  | entries :: rest => .table (toValues entries) :: toTables rest
end

end Item

end Storefront.Toml
