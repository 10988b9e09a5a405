import Storefront.Settings.Basic
import Storefront.Settings.Fault
import Storefront.Settings.KeyPath

namespace Storefront.Settings

def Scalar.text? : Scalar → Option String
  | .null => none
  | .bool b => some (toString b)
  | .integer n => some (toString n)
  | .real x => some x.display
  | .text s => some s

structure Place where
  key : String
  tree : Tree

namespace Place

def text (p : Place) : Except Fault String :=
  match p.tree with
  | .scalar _ v =>
      match v.text? with
      | some s => .ok s
      | none => .error (.notText p.tree p.key)
  | _ => .error (.notText p.tree p.key)

def elements (key : String) (index : Nat) : List Tree → List Place
  | [] => []
  | t :: rest => { key := s!"{key}[{index}]", tree := t } :: elements key (index + 1) rest

def texts (p : Place) : Except Fault (List String) :=
  match p.tree with
  | .array _ items => (elements p.key 0 items).mapM text
  | t => .error (.notList t)

def next {α : Type} (read : Place → Except Fault α) (record : String) (index fields : Nat) :
    List Place → Except Fault (α × List Place)
  | [] => .error (.tooShort index record fields)
  | p :: rest => (read p).map fun a => (a, rest)

def field? {α : Type} (read : Place → Except Fault α) (p : Place) (name : String) :
    Except Fault (Option α) :=
  match p.tree.child? name with
  | none => .ok none
  | some t => (read { key := s!"{p.key}.{name}", tree := t }).map some

def present {α : Type} (name : String) : Option α → Except Fault α
  | some a => .ok a
  | none => .error (.missingField name)

def single {α : Type} (read : Place → Except Fault α) (record name : String) (p : Place) :
    Except Fault α :=
  match p.tree with
  | .table .. => do present name (← field? read p name)
  | .array _ items => do
      let (a, _) ← next read record 0 1 (elements p.key 0 items)
      return a
  | t => .error (.notRecord t record)

def repeaterNames (p : Place) : Except Fault RepeaterNames :=
  match p.tree with
  | .table .. => do
      let items ← field? text p "items_binding"
      let item ← field? text p "item_alias"
      let index ← field? text p "index_alias"
      let items ← present "items_binding" items
      let item ← present "item_alias" item
      let index ← present "index_alias" index
      return { items, item, index }
  | .array _ elems => do
      let (items, rest) ← next text "RepeaterConfig" 0 3 (elements p.key 0 elems)
      let (item, rest) ← next text "RepeaterConfig" 1 3 rest
      let (index, _) ← next text "RepeaterConfig" 2 3 rest
      return { items, item, index }
  | t => .error (.notRecord t "RepeaterConfig")

end Place

def section? (t : Tree) (key : String) : Except Fault Place :=
  match t.child? key with
  | some below => .ok { key, tree := below }
  | none => .error (.missingField key)

def ofTree (t : Tree) : Except Fault Settings := do
  let scopePrefixes ← Place.single Place.texts "BindingsConfig" "scope_prefixes" (← section? t "bindings")
  let repeater ← Place.repeaterNames (← section? t "repeater")
  let logLevel ← Place.single Place.text "LogConfig" "level" (← section? t "log")
  return { scopePrefixes, repeater, logLevel }

end Storefront.Settings
