import Mathlib.Data.Fintype.Basic
import Storefront.Settings.Layer
import Storefront.Text.Lower

namespace Storefront.Settings

inductive Setting where
  | scopePrefixes
  | itemsBinding
  | itemAlias
  | indexAlias
  | logLevel
  deriving DecidableEq, Repr

instance : Fintype Setting where
  elems := {.scopePrefixes, .itemsBinding, .itemAlias, .indexAlias, .logLevel}
  complete s := by cases s <;> decide

namespace Setting

def table : Setting → String
  | .scopePrefixes => "bindings"
  | .itemsBinding => "repeater"
  | .itemAlias => "repeater"
  | .indexAlias => "repeater"
  | .logLevel => "log"

def field : Setting → String
  | .scopePrefixes => "scope_prefixes"
  | .itemsBinding => "items_binding"
  | .itemAlias => "item_alias"
  | .indexAlias => "index_alias"
  | .logLevel => "level"

def key (s : Setting) : String := s.table ++ "." ++ s.field

theorem key_inj {s s' : Setting} (h : s.key = s'.key) : s = s' := by
  cases s <;> cases s' <;> first | rfl | exact absurd h (by decide +kernel)

end Setting

inductive Content where
  | text (s : String)
  | texts (list : List String)
  deriving DecidableEq, Repr

def content (settings : Settings) : Setting → Content
  | .scopePrefixes => .texts settings.scopePrefixes
  | .itemsBinding => .text settings.repeater.items
  | .itemAlias => .text settings.repeater.item
  | .indexAlias => .text settings.repeater.index
  | .logLevel => .text settings.logLevel

def default : Settings :=
  { scopePrefixes := ["item.", "product.", "slide."],
    repeater := { items := "items", item := "item", index := "index" },
    logLevel := "warn" }

namespace Tree

def IsTable (t : Tree) : Prop := ∃ origin entries, t = .table origin entries

instance : DecidablePred IsTable
  | .table origin entries => isTrue ⟨origin, entries, rfl⟩
  | .scalar .. | .array .. => isFalse nofun

def asText? : Tree → Option String
  | .scalar _ (.text s) => some s
  | _ => none

/-- A value that is a text or a list of texts itself, and not only read as one. -/
def Shows : Tree → Content → Prop
  | .scalar _ (.text s), .text s' => s = s'
  | .array _ items, .texts list => items.map asText? = list.map some
  | _, _ => False

instance : DecidableRel Shows
  | .scalar _ (.text s), .text s' => inferInstanceAs (Decidable (s = s'))
  | .array _ items, .texts list => inferInstanceAs (Decidable (items.map asText? = list.map some))
  | .scalar _ .null, _ | .scalar _ (.bool _), _ | .scalar _ (.integer _), _ | .scalar _ (.real _), _
  | .scalar _ (.text _), .texts _ | .array .., .text _ | .table .., _ => isFalse id

theorem shows_text_iff {v : Tree} {t : String} : v.Shows (.text t) ↔ v.asText? = some t := by
  cases v with
  | scalar origin value => cases value <;> simp [Shows, asText?]
  | _ => simp [Shows, asText?]

theorem shows_texts_iff {v : Tree} {list : List String} : v.Shows (.texts list) ↔
    ∃ origin items, v = .array origin items ∧ items.map asText? = list.map some := by
  cases v with
  | array origin items =>
      constructor
      · exact fun h => ⟨origin, items, rfl, h⟩
      · rintro ⟨_, _, ⟨⟩, h⟩
        exact h
  | scalar origin value => cases value <;> simp [Shows]
  | table => simp [Shows]

end Tree

section Documents

variable {ε α : Type}

instance (x : Except ε α) (P : α → Prop) [DecidablePred P] : Decidable (∃ a, x = .ok a ∧ P a) :=
  match x with
  | .ok a => decidable_of_iff (P a) ⟨fun h => ⟨a, rfl, h⟩, fun ⟨_, same, h⟩ => Except.ok.inj same ▸ h⟩
  | .error _ => isFalse nofun

structure IsSection (name : String) (entries : List (String × Tree)) : Prop where
  known : ∃ s : Setting, name = s.table
  lowerCase : ∀ key ∈ Dictionary.keys entries, Text.lower key = key
  plain : ∀ s : Setting, name = s.table → ∀ v ∈ Dictionary.get? s.field entries, ¬ v.IsTable

instance (name : String) (entries : List (String × Tree)) : Decidable (IsSection name entries) :=
  decidable_of_iff
    ((∃ s : Setting, name = s.table) ∧ (∀ key ∈ Dictionary.keys entries, Text.lower key = key) ∧
      ∀ s : Setting, name = s.table → ∀ v ∈ Dictionary.get? s.field entries, ¬ v.IsTable)
    ⟨fun ⟨known, lowerCase, plain⟩ => ⟨known, lowerCase, plain⟩, fun h => ⟨h.known, h.lowerCase, h.plain⟩⟩

def IsNamedSection : String × Tree → Prop
  | (name, .table _ entries) => IsSection name entries
  | _ => False

instance : DecidablePred IsNamedSection
  | (name, .table _ entries) => inferInstanceAs (Decidable (IsSection name entries))
  | (_, .scalar ..) | (_, .array ..) => isFalse id

def IsConfiguration (document : Document) : Prop := ∀ e ∈ document, IsNamedSection e

instance : DecidablePred IsConfiguration := fun document =>
  inferInstanceAs (Decidable (∀ e ∈ document, IsNamedSection e))

def given? (s : Setting) (document : Document) : Option Tree :=
  match Dictionary.get? s.table document with
  | some (.table _ entries) => Dictionary.get? s.field entries
  | _ => none

end Documents

section Reader

variable [Library]

def Setting.read? (s : Setting) (v : Tree) : Option Content :=
  match s with
  | .scopePrefixes => ((Library.list? v).bind fun items => items.mapM Library.text?).map .texts
  | _ => (Library.text? v).map .text

/-- The sources that a builder was given and the overrides of settings, the first ones first. -/
inductive Registered : List Source → List (String × Tree) → Library.Builder → Prop
  | new : Registered [] [] Library.builder
  | source {sources overrides b} (source : Source) : Registered sources overrides b →
      Registered (sources ++ [source]) overrides (Library.addSource b source)
  | override {sources overrides b b'} {s : Setting} {v : Tree} : ¬ v.IsTable → Registered sources overrides b →
      Library.setOverride b s.key v = .ok b' → Registered sources (overrides ++ [(s.key, v)]) b'

def Merged (c : Library.Config) (document : Document) (c' : Library.Config) : Prop :=
  ∀ s : Setting, Library.get? c' s.key = (given? s document).or (Library.get? c s.key)

/-- What the documentation of the library says of its parts. Building collects the sources in the order in
which they were added, and sets the overrides after all of them. -/
structure Library.Lawful : Prop where
  setOverride_key (b : Library.Builder) (s : Setting) {v : Tree} : ¬ v.IsTable →
    ∃ b', Library.setOverride b s.key v = .ok b'
  build_eq {sources overrides b} (files : Files) : Registered sources overrides b →
    Library.build b files = (sources.foldlM (Library.collectTo files) Library.empty).map fun c =>
      overrides.foldl (fun c o => Library.set c o.1 o.2) c
  collectTo_text {content document} (files : Files) (c : Library.Config) :
    Library.parse none content = .ok document → IsConfiguration document →
      ∃ c', Library.collectTo files c (.text content) = .ok c' ∧ Merged c document c'
  collectTo_file {files path name content document} (c : Library.Config) (required : Bool) :
    Library.resolve? files path = some (name, content) → Library.parse (some name) content = .ok document →
      IsConfiguration document →
      ∃ c', Library.collectTo files c (.file path required) = .ok c' ∧ Merged c document c'
  collectTo_absent {files path} (c : Library.Config) : Library.resolve? files path = none →
    Library.collectTo files c (.file path false) = .ok c
  collectTo_missing {files path} (c : Library.Config) : Library.resolve? files path = none →
    ∃ fault, Library.collectTo files c (.file path true) = .error fault
  get?_set (c : Library.Config) (s s' : Setting) {v : Tree} : ¬ v.IsTable →
    Library.get? (Library.set c s.key v) s'.key = if s = s' then some v else Library.get? c s'.key
  deserialize_eq_ok_iff {c : Library.Config} {settings : Settings} : (∀ s : Setting, (Library.get? c s.key).isSome) →
    (Library.deserialize c = .ok settings ↔
      ∀ s : Setting, (Library.get? c s.key).bind s.read? = some (content settings s))
  text?_text (origin : Option String) (s : String) : Library.text? (.scalar origin (.text s)) = some s
  list?_array (origin : Option String) (items : List Tree) : Library.list? (.array origin items) = some items
  parse_default : ∃ document, Library.parse none defaultDocument = .ok document ∧ IsConfiguration document ∧
    ∀ s, ∃ v ∈ given? s document, v.Shows (content default s)

end Reader

end Storefront.Settings
