import Storefront.Settings.Layer
import Storefront.Settings.Reading
import Storefront.Toml.Parser

namespace Storefront.Settings

namespace Tree

mutual
def ofValue (origin : Option String) : Toml.Value → Tree
  | .text s => .scalar origin (.text s)
  | .integer n => .scalar origin (.integer n)
  | .real x => .scalar origin (.real x)
  | .bool b => .scalar origin (.bool b)
  | .moment s => .scalar origin (.text s)
  | .array items => .array origin (ofItems origin items)
  | .table entries => .table origin (Dictionary.ofList (ofEntries origin entries))

def ofItems (origin : Option String) : List Toml.Value → List Tree
  | [] => []
  | v :: rest => ofValue origin v :: ofItems origin rest

-- Keys are taken in lower case.
def ofEntries (origin : Option String) : List (String × Toml.Value) → List (String × Tree)
  | [] => []
  | (key, v) :: rest => (Text.lower key, ofValue origin v) :: ofEntries origin rest
end

def text? : Tree → Option String
  | .scalar _ v => v.text?
  | _ => none

def list? : Tree → Option (List Tree)
  | .array _ items => some items
  | _ => none

def set (t : Tree) (key : String) (v : Tree) : Tree :=
  t.put ((KeyPath.ofText? key).getD { head := key, steps := [] }) v

end Tree

def otherPath? (path : String) : Option String :=
  match (Files.steps path).getLast? with
  | none => none
  | some name =>
      if name = ".." then none
      else
        let start := if path.startsWith "/" then "/" else ""
        some (start ++ "/".intercalate ((Files.steps path).dropLast ++ [name ++ ".toml"]))

def withoutMark (content : String) : String :=
  match content.toList with
  | '\ufeff' :: rest => String.ofList rest
  | _ => content

def fileOf? (files : Files) (path : String) : Option (String × String) :=
  let found (p : String) : Option (String × String) :=
    match files p with
    | .ok content => some ("/".intercalate (Files.steps p), withoutMark content)
    | .error (.notText lossy) => some ("/".intercalate (Files.steps p), withoutMark lossy)
    | .error _ => none
  (found path).or ((otherPath? path).bind found)

def documentOf (file : Option String) (content : String) : Except Fault Document :=
  match Toml.parse content.toList with
  | .ok entries => .ok (Dictionary.ofList (Tree.ofEntries file entries))
  | .error place =>
      match file with
      | some file => .error (.badFile file place)
      | none => .error (.badText place)

def putDocument (t : Tree) (document : Document) : Tree := document.foldl (fun t e => t.set e.1 e.2) t

def collectTo (files : Files) (t : Tree) : Source → Except Fault Tree
  | .text content => (documentOf none content).map (putDocument t)
  | .file path required =>
      match fileOf? files path with
      | some (name, content) => (documentOf (some name) content).map (putDocument t)
      | none => if required then .error (.missingFile path) else .ok t

structure Register where
  sources : List Source := []
  overrides : List (KeyPath × Tree) := []

instance treeLibrary : Library where
  Builder := Register
  Config := Tree
  builder := {}
  addSource r source := { r with sources := r.sources ++ [source] }
  setOverride r key v :=
    match KeyPath.ofText? key with
    | some path => .ok { r with overrides := r.overrides ++ [(path, v)] }
    | none => .error (.badKey key)
  build r files := (r.sources.foldlM (collectTo files) .empty).map fun t =>
    r.overrides.foldl (fun t o => t.put o.1 o.2) t
  deserialize := ofTree
  resolve? := fileOf?
  parse := documentOf
  empty := .empty
  collectTo := collectTo
  set := Tree.set
  get? t key := (KeyPath.ofText? key).bind fun path => t.find? (.key path.head :: path.steps)
  text? := Tree.text?
  list? := Tree.list?

end Storefront.Settings
