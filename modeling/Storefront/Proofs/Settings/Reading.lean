import Storefront.Proofs.Settings.Tree

namespace Storefront.Settings

theorem bind_eq_ok_iff {ε α β : Type} {x : Except ε α} {f : α → Except ε β} {b : β} :
    (x >>= f) = .ok b ↔ ∃ a, x = .ok a ∧ f a = .ok b := by
  cases x with
  | error e =>
      constructor
      · rintro ⟨⟩
      · rintro ⟨a, ⟨⟩, -⟩
  | ok a =>
      constructor
      · exact fun h => ⟨a, rfl, h⟩
      · rintro ⟨a', ⟨⟩, h⟩
        exact h

namespace Tree

def texts? (v : Tree) : Option (List String) := v.list?.bind fun items => items.mapM text?

end Tree

namespace Place

variable {p : Place} {text : String} {list : List String} {α : Type} {a : α}

theorem text_eq_ok_iff : p.text = .ok text ↔ p.tree.text? = some text := by
  obtain ⟨key, tree⟩ := p
  cases tree with
  | scalar origin v => cases h : v.text? <;> simp [Place.text, Tree.text?, h]
  | _ => simp [Place.text, Tree.text?]

theorem mapM_elements_eq_ok_iff {key : String} {index : Nat} {items : List Tree} :
    (elements key index items).mapM Place.text = .ok list ↔ items.mapM Tree.text? = some list := by
  induction items generalizing index list with
  | nil => simp [elements, pure, Except.pure, eq_comm]
  | cons item rest ih =>
      simp only [elements, List.mapM_cons, bind_eq_ok_iff, text_eq_ok_iff, ih, Option.bind_eq_bind,
        Option.bind_eq_some_iff]
      simp [pure, Except.pure]

theorem texts_eq_ok_iff : p.texts = .ok list ↔ p.tree.texts? = some list := by
  obtain ⟨key, tree⟩ := p
  cases tree with
  | array origin items => exact mapM_elements_eq_ok_iff
  | _ => simp [Place.texts, Tree.texts?, Tree.list?]

theorem field?_present_eq_ok_iff {read : Place → Except Fault α} {name : String} {key : String} {tree : Tree} :
    (∃ found, field? read ⟨key, tree⟩ name = .ok found ∧ present name found = .ok a) ↔
      ∃ v, tree.child? name = some v ∧ read ⟨s!"{key}.{name}", v⟩ = .ok a := by
  rw [field?]
  cases tree.child? name with
  | none => simp [present]
  | some v =>
    cases h : read ⟨s!"{key}.{name}", v⟩ <;> simp [present, Except.map, h]

theorem single_eq_ok_iff {read : Place → Except Fault α} {record name : String} (h : p.tree.IsTable) :
    single read record name p = .ok a ↔
      ∃ v, p.tree.child? name = some v ∧ read ⟨s!"{p.key}.{name}", v⟩ = .ok a := by
  obtain ⟨key, tree⟩ := p
  obtain ⟨origin, entries, rfl⟩ := h
  simp only [single, bind_eq_ok_iff, field?_present_eq_ok_iff]

def Names (t : Tree) (name text : String) : Prop := ∃ v, t.child? name = some v ∧ v.text? = some text

theorem field?_text_iff {name : String} :
    (∃ found, field? Place.text p name = .ok found ∧ present name found = .ok text) ↔ Names p.tree name text := by
  simp only [Names, field?_present_eq_ok_iff, text_eq_ok_iff]

theorem repeaterNames_eq_ok_iff {names : RepeaterNames} (h : p.tree.IsTable) :
    repeaterNames p = .ok names ↔
      Names p.tree "items_binding" names.items ∧ Names p.tree "item_alias" names.item ∧
        Names p.tree "index_alias" names.index := by
  obtain ⟨key, tree⟩ := p
  obtain ⟨origin, entries, rfl⟩ := h
  obtain ⟨items, item, index⟩ := names
  simp only [repeaterNames, bind_eq_ok_iff]
  constructor
  · rintro ⟨a, ha, b, hb, c, hc, items', hi, item', hj, index', hk, ⟨⟩⟩
    exact ⟨field?_text_iff.1 ⟨a, ha, hi⟩, field?_text_iff.1 ⟨b, hb, hj⟩, field?_text_iff.1 ⟨c, hc, hk⟩⟩
  · rintro ⟨hi, hj, hk⟩
    obtain ⟨a, ha, hi⟩ := (field?_text_iff (p := ⟨key, _⟩)).2 hi
    obtain ⟨b, hb, hj⟩ := (field?_text_iff (p := ⟨key, _⟩)).2 hj
    obtain ⟨c, hc, hk⟩ := (field?_text_iff (p := ⟨key, _⟩)).2 hk
    exact ⟨a, ha, b, hb, c, hc, items, hi, item, hj, index, hk, rfl⟩

end Place

section Whole

variable {t below v : Tree} {settings : Settings} {s : Setting}

theorem Setting.forall_iff {P : Setting → Prop} :
    (∀ s, P s) ↔ P .scopePrefixes ∧ (P .itemsBinding ∧ P .itemAlias ∧ P .indexAlias) ∧ P .logLevel := by
  constructor
  · exact fun h => ⟨h _, ⟨h _, h _, h _⟩, h _⟩
  · rintro ⟨scopePrefixes, ⟨itemsBinding, itemAlias, indexAlias⟩, logLevel⟩ s
    cases s <;> assumption

def Reads (t : Tree) (settings : Settings) (s : Setting) : Prop := (t.at? s).bind s.read? = some (content settings s)

theorem reads_iff_names {text : String} (plain : ∀ v, s.read? v = v.text?.map .text)
    (given : content settings s = .text text) (h : t.child? s.table = some below) :
    Reads t settings s ↔ Place.Names below s.field text := by
  simp [Reads, Place.Names, Tree.at?_eq h, Option.bind_eq_some_iff, plain, given]

theorem reads_scopePrefixes_iff (h : t.child? Setting.scopePrefixes.table = some below) :
    Reads t settings .scopePrefixes ↔
      ∃ v, below.child? "scope_prefixes" = some v ∧ v.texts? = some settings.scopePrefixes := by
  have read (v : Tree) : Setting.scopePrefixes.read? v = v.texts?.map .texts := rfl
  simp [Reads, Tree.at?_eq h, Option.bind_eq_some_iff, Setting.field, read, content]

theorem section?_eq {key : String} (h : t.child? key = some below) : section? t key = .ok ⟨key, below⟩ := by
  rw [section?, h]

theorem ofTree_eq_ok_iff (h : t.Sectioned) : ofTree t = .ok settings ↔ ∀ s, Reads t settings s := by
  obtain ⟨bindings, hb : t.child? "bindings" = some bindings, tb⟩ := h .scopePrefixes
  obtain ⟨repeater, hr : t.child? "repeater" = some repeater, tr⟩ := h .itemAlias
  obtain ⟨log, hl : t.child? "log" = some log, tl⟩ := h .logLevel
  have items : Reads t settings .itemsBinding ↔ _ := reads_iff_names (fun _ => rfl) rfl hr
  have item : Reads t settings .itemAlias ↔ _ := reads_iff_names (fun _ => rfl) rfl hr
  have index : Reads t settings .indexAlias ↔ _ := reads_iff_names (fun _ => rfl) rfl hr
  have level : Reads t settings .logLevel ↔ _ := reads_iff_names (fun _ => rfl) rfl hl
  calc ofTree t = .ok settings
      ↔ Place.single Place.texts "BindingsConfig" "scope_prefixes" ⟨"bindings", bindings⟩ = .ok settings.scopePrefixes ∧
          Place.repeaterNames ⟨"repeater", repeater⟩ = .ok settings.repeater ∧
          Place.single Place.text "LogConfig" "level" ⟨"log", log⟩ = .ok settings.logLevel := by
        rw [ofTree, section?_eq hb, section?_eq hr, section?_eq hl]
        simp only [bind_eq_ok_iff, Except.ok.injEq, exists_eq_left']
        constructor
        · rintro ⟨scopePrefixes, hs, names, hn, level, hl, ⟨⟩⟩
          exact ⟨hs, hn, hl⟩
        · rintro ⟨hs, hn, hl⟩
          exact ⟨_, hs, _, hn, _, hl, rfl⟩
    _ ↔ Reads t settings .scopePrefixes ∧
          (Reads t settings .itemsBinding ∧ Reads t settings .itemAlias ∧ Reads t settings .indexAlias) ∧
          Reads t settings .logLevel := by
        rw [Place.single_eq_ok_iff tb, Place.repeaterNames_eq_ok_iff tr, Place.single_eq_ok_iff tl,
          reads_scopePrefixes_iff hb, items, item, index, level]
        simp only [Place.texts_eq_ok_iff, Place.text_eq_ok_iff]
        rfl
    _ ↔ ∀ s, Reads t settings s := Setting.forall_iff.symm

end Whole

end Storefront.Settings
