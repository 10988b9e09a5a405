import Storefront.Proofs.Settings.TreeLibrary

namespace Storefront.Settings

namespace Layer

def path? : Layer → Option String
  | .file path => some path
  | .optionalFile path => some path
  | .override .. => none

def isOverride : Layer → Bool
  | .file _ => false
  | .optionalFile _ => false
  | .override .. => true

def inOverride? (s : Setting) : Layer → Option Tree
  | .file _ => none
  | .optionalFile _ => none
  | .override key value => if key = s.key then some value else none

def source? : Layer → Option Source
  | .file path => some (.file path true)
  | .optionalFile path => some (.file path false)
  | .override .. => none

def entry? : Layer → Option (String × Tree)
  | .file _ => none
  | .optionalFile _ => none
  | .override key value => some (key, value)

theorem inOverride?_eq_none {layer : Layer} {s : Setting} (h : layer.isOverride = false) :
    layer.inOverride? s = none := by
  cases layer with
  | override key value => cases h
  | _ => rfl

end Layer

def lastGiven? (value? : Layer → Option Tree) (layers : List Layer) : Option Tree := layers.reverse.findSome? value?

section LastGiven

variable {value? : Layer → Option Tree} {layer : Layer} {before after layers : List Layer} {v : Tree}

theorem lastGiven?_cons : lastGiven? value? (layer :: layers) = (lastGiven? value? layers).or (value? layer) := by
  rw [lastGiven?, List.reverse_cons, List.findSome?_append, List.findSome?_singleton, lastGiven?]

theorem lastGiven?_append :
    lastGiven? value? (before ++ after) = (lastGiven? value? after).or (lastGiven? value? before) := by
  rw [lastGiven?, List.reverse_append, List.findSome?_append, lastGiven?, lastGiven?]

theorem mem_of_lastGiven? (h : lastGiven? value? layers = some v) : ∃ layer ∈ layers, value? layer = some v := by
  obtain ⟨layer, listed, given⟩ := List.exists_of_findSome?_eq_some h
  exact ⟨layer, List.mem_reverse.1 listed, given⟩

theorem isSome_lastGiven? : (lastGiven? value? layers).isSome ↔ ∃ layer ∈ layers, (value? layer).isSome := by
  simp [lastGiven?, List.findSome?_isSome_iff]

theorem lastGiven?_middle : lastGiven? value? (before ++ layer :: after) =
    (lastGiven? value? after).or ((value? layer).or (lastGiven? value? before)) := by
  rw [lastGiven?_append, lastGiven?_cons, Option.or_assoc]

end LastGiven

section Parts

theorem filterMap_cons_toList {β : Type} (f : Layer → Option β) (layer : Layer) (rest : List Layer) :
    (layer :: rest).filterMap f = (f layer).toList ++ rest.filterMap f := by
  rw [List.filterMap_cons]
  cases f layer <;> rfl

theorem filterMap_entry?_filter (layers : List Layer) :
    (layers.filter (·.isOverride)).filterMap Layer.entry? = layers.filterMap Layer.entry? := by
  rw [List.filterMap_filter]
  exact List.filterMap_congr fun layer _ => by cases layer <;> rfl

theorem filterMap_source?_filter (layers : List Layer) :
    (layers.filter fun layer => !layer.isOverride).filterMap Layer.source? = layers.filterMap Layer.source? := by
  rw [List.filterMap_filter]
  exact List.filterMap_congr fun layer _ => by cases layer <;> rfl

end Parts

section Reader

variable [Library]

def Layer.inFile? (files : Files) (s : Setting) (layer : Layer) : Option Tree :=
  (layer.path?.bind (Library.resolve? files)).bind fun (name, content) =>
    match Library.parse (some name) content with
    | .ok document => given? s document
    | .error _ => none

def Layer.value? (files : Files) (s : Setting) (layer : Layer) : Option Tree :=
  (layer.inOverride? s).or (layer.inFile? files s)

def Layer.Readable (files : Files) (s : Setting) (layer : Layer) : Prop :=
  ∀ v, layer.value? files s = some v → s.read? v ≠ none

/-- A layer lies over the value that `layer` gives for a setting: a later override, or for the value of a file also a
later file or any override. -/
def Replaced (files : Files) (s : Setting) (before : List Layer) (layer : Layer) (after : List Layer) : Prop :=
  (∃ later ∈ after, (later.inOverride? s).isSome) ∨
    layer.isOverride = false ∧
      ((∃ later ∈ after, (later.inFile? files s).isSome) ∨ ∃ earlier ∈ before, (earlier.inOverride? s).isSome)

/-- The value of the last override of a setting, else of the last file that gives one. -/
def winner? (files : Files) (layers : List Layer) (s : Setting) : Option Tree :=
  (lastGiven? (Layer.inOverride? s) layers).or (lastGiven? (Layer.inFile? files s) layers)

def outcome? (files : Files) (layers : List Layer) (s : Setting) : Option Content :=
  (winner? files layers s).elim (some (content default s)) s.read?

def IsConfigured (file : String × String) : Prop :=
  ∃ document, Library.parse (some file.1) file.2 = .ok document ∧ IsConfiguration document

instance : DecidablePred IsConfigured := fun _ => inferInstanceAs (Decidable (∃ document, _ ∧ IsConfiguration document))

def Layer.IsRegular (files : Files) : Layer → Prop
  | .file path => ∀ found ∈ Library.resolve? files path, IsConfigured found
  | .optionalFile path => ∀ found ∈ Library.resolve? files path, IsConfigured found
  | .override key value => (∃ s : Setting, key = s.key) ∧ ¬ value.IsTable

instance (files : Files) : DecidablePred (Layer.IsRegular files)
  | .file path => inferInstanceAs (Decidable (∀ found ∈ Library.resolve? files path, IsConfigured found))
  | .optionalFile path => inferInstanceAs (Decidable (∀ found ∈ Library.resolve? files path, IsConfigured found))
  | .override key value => inferInstanceAs (Decidable ((∃ s : Setting, key = s.key) ∧ ¬ value.IsTable))

def Regular (files : Files) (layers : List Layer) : Prop := ∀ layer ∈ layers, layer.IsRegular files

instance (files : Files) : DecidablePred (Regular files) := fun layers =>
  inferInstanceAs (Decidable (∀ layer ∈ layers, layer.IsRegular files))

def Complete (files : Files) (layers : List Layer) : Prop :=
  ∀ path, .file path ∈ layers → (Library.resolve? files path).isSome

section LayerValues

variable {files : Files} {layer : Layer} {s : Setting}

theorem Layer.inFile?_eq_none (h : layer.path?.bind (Library.resolve? files) = none) :
    layer.inFile? files s = none := by
  rw [inFile?, h, Option.bind_none]

theorem Layer.inFile?_eq {name content : String} {document : Document}
    (h : layer.path?.bind (Library.resolve? files) = some (name, content))
    (parsed : Library.parse (some name) content = .ok document) : layer.inFile? files s = given? s document := by
  simp only [inFile?, h, Option.bind_some, parsed]

theorem Layer.inFile?_eq_none_of_isOverride (h : layer.isOverride = true) : layer.inFile? files s = none := by
  cases layer with
  | override key value => rfl
  | _ => cases h

end LayerValues

section Load

variable {files : Files} {layer : Layer} {layers rest : List Layer} {path : String} {sources : List Source}
  {overrides : List (String × Tree)} {c : Library.Config}

theorem Regular.tail (h : Regular files (layer :: rest)) : Regular files rest :=
  fun layer listed => h layer (List.mem_cons_of_mem _ listed)

theorem Complete.tail (h : Complete files (layer :: rest)) : Complete files rest :=
  fun path listed => h path (List.mem_cons_of_mem _ listed)

theorem registered_layered (lawful : Library.Lawful) {l : Loader} (h : Registered sources overrides l.builder)
    (regular : layer.IsRegular files) : ∃ l', l.layered layer = .ok l' ∧
      Registered (sources ++ layer.source?.toList) (overrides ++ layer.entry?.toList) l'.builder := by
  cases layer with
  | file path =>
      refine ⟨l.withFile path, rfl, ?_⟩
      rw [Layer.entry?, Option.toList_none, List.append_nil]
      exact h.source (.file path true)
  | optionalFile path =>
      refine ⟨l.withOptionalFile path, rfl, ?_⟩
      rw [Layer.entry?, Option.toList_none, List.append_nil]
      exact h.source (.file path false)
  | override key value =>
      obtain ⟨⟨s, rfl⟩, plain⟩ := regular
      obtain ⟨b', set⟩ := lawful.setOverride_key l.builder s plain
      refine ⟨{ builder := b' }, by rw [Loader.layered, Loader.setOverride, set]; rfl, ?_⟩
      rw [Layer.source?, Option.toList_none, List.append_nil]
      exact h.override plain set

theorem registered_layers (lawful : Library.Lawful) {l : Loader} (h : Registered sources overrides l.builder)
    (regular : Regular files layers) : ∃ l', layers.foldlM Loader.layered l = .ok l' ∧
      Registered (sources ++ layers.filterMap Layer.source?) (overrides ++ layers.filterMap Layer.entry?)
        l'.builder := by
  induction layers generalizing l sources overrides with
  | nil => exact ⟨l, rfl, by simpa using h⟩
  | cons layer rest ih =>
      obtain ⟨l', first, registered⟩ := registered_layered lawful h (regular layer List.mem_cons_self)
      obtain ⟨l'', later, registered⟩ := ih registered regular.tail
      refine ⟨l'', ?_, ?_⟩
      · rw [List.foldlM_cons, first]
        exact later
      · rwa [filterMap_cons_toList, filterMap_cons_toList, ← List.append_assoc, ← List.append_assoc]

def collectAll (files : Files) (layers : List Layer) (c : Library.Config) : Except Fault Library.Config :=
  (layers.filterMap Layer.source?).foldlM (Library.collectTo files) c

def setAll (layers : List Layer) (c : Library.Config) : Library.Config :=
  (layers.filterMap Layer.entry?).foldl (fun c o => Library.set c o.1 o.2) c

theorem load_eq (lawful : Library.Lawful) (h : Regular files layers) : load files layers =
    (Library.collectTo files Library.empty (.text defaultDocument) >>= collectAll files layers) >>=
      fun c => Library.deserialize (setAll layers c) := by
  obtain ⟨l, layered, registered⟩ := registered_layers lawful (Registered.new.source (.text defaultDocument)) h
  have loaded : load files layers = l.build files := by
    rw [load, Loader.new, layered]
    rfl
  rw [loaded, Loader.build, lawful.build_eq files registered]
  simp only [List.nil_append, List.singleton_append, List.foldlM_cons]
  cases Library.collectTo files Library.empty (.text defaultDocument) with
  | error fault => rfl
  | ok c =>
      show (Except.map _ (List.foldlM _ c _) >>= _) = (List.foldlM _ c _ >>= _)
      cases List.foldlM (Library.collectTo files) c (layers.filterMap Layer.source?) <;> rfl

theorem setAll_spec (lawful : Library.Lawful) (h : Regular files layers) (s : Setting) :
    Library.get? (setAll layers c) s.key =
      (lastGiven? (Layer.inOverride? s) layers).or (Library.get? c s.key) := by
  induction layers generalizing c with
  | nil => rfl
  | cons layer rest ih =>
      -- The first layer is set first, so what the later ones give stands before it in the look-up.
      have later (c : Library.Config) := ih (c := c) h.tail
      rw [lastGiven?_cons, Option.or_assoc]
      cases layer with
      | override key value =>
          obtain ⟨⟨s', rfl⟩, plain⟩ := h (.override key value) List.mem_cons_self
          have first : setAll (.override s'.key value :: rest) c = setAll rest (Library.set c s'.key value) := rfl
          rw [first, later, lawful.get?_set c s' s plain, Layer.inOverride?]
          by_cases same : s' = s
          · simp [same]
          · have keys : s'.key ≠ s.key := fun h => same (Setting.key_inj h)
            simp [same, keys]
      | file path => exact later c
      | optionalFile path => exact later c

def collectLayer (files : Files) (layer : Layer) (c : Library.Config) : Except Fault Library.Config :=
  match layer.source? with
  | some source => Library.collectTo files c source
  | none => .ok c

theorem collectAll_cons (files : Files) (layer : Layer) (rest : List Layer) (c : Library.Config) :
    collectAll files (layer :: rest) c = collectLayer files layer c >>= collectAll files rest := by
  cases layer <;> rfl

theorem collectLayer_spec (lawful : Library.Lawful) (regular : layer.IsRegular files)
    (complete : ∀ path, layer = .file path → (Library.resolve? files path).isSome) (c : Library.Config) :
    ∃ c', collectLayer files layer c = .ok c' ∧
      ∀ s : Setting, Library.get? c' s.key = (layer.inFile? files s).or (Library.get? c s.key) := by
  have present {path : String} (required : Bool) (same : layer.path? = some path)
      (formed : ∀ found ∈ Library.resolve? files path, IsConfigured found)
      (found : (Library.resolve? files path).isSome) :
      ∃ c', Library.collectTo files c (.file path required) = .ok c' ∧
        ∀ s : Setting, Library.get? c' s.key = (layer.inFile? files s).or (Library.get? c s.key) := by
    obtain ⟨⟨name, content⟩, resolved⟩ := Option.isSome_iff_exists.1 found
    obtain ⟨document, parsed, sections⟩ := formed _ resolved
    obtain ⟨c', collected, merged⟩ := lawful.collectTo_file c required resolved parsed sections
    refine ⟨c', collected, fun s => ?_⟩
    rw [merged s, Layer.inFile?_eq (by rw [same, Option.bind_some, resolved]) parsed]
  cases layer with
  | override key value => exact ⟨c, rfl, fun s => rfl⟩
  | file path => exact present true rfl regular (complete path rfl)
  | optionalFile path =>
      cases resolved : Library.resolve? files path with
      | some file => exact present false rfl regular (by rw [resolved]; rfl)
      | none =>
          refine ⟨c, lawful.collectTo_absent c resolved, fun s => ?_⟩
          have nothing : (Layer.optionalFile path).inFile? files s = none := Layer.inFile?_eq_none resolved
          rw [nothing, Option.none_or]

theorem collectAll_spec (lawful : Library.Lawful) (h : Regular files layers) (complete : Complete files layers)
    (c : Library.Config) : ∃ c', collectAll files layers c = .ok c' ∧
      ∀ s : Setting, Library.get? c' s.key =
        (lastGiven? (Layer.inFile? files s) layers).or (Library.get? c s.key) := by
  induction layers generalizing c with
  | nil => exact ⟨c, rfl, fun s => rfl⟩
  | cons layer rest ih =>
      have here (path : String) (same : layer = .file path) : (Library.resolve? files path).isSome :=
        complete path (same ▸ List.mem_cons_self)
      obtain ⟨c', first, given⟩ := collectLayer_spec lawful (h layer List.mem_cons_self) here c
      obtain ⟨c'', later, above⟩ := ih h.tail complete.tail c'
      refine ⟨c'', ?_, fun s => ?_⟩
      · rw [collectAll_cons, first]
        exact later
      · rw [above, given, lastGiven?_cons, Option.or_assoc]

theorem collectAll_error (lawful : Library.Lawful) (listed : .file path ∈ layers)
    (absent : Library.resolve? files path = none) (c : Library.Config) :
    ∃ fault, collectAll files layers c = .error fault := by
  induction layers generalizing c with
  | nil => cases listed
  | cons layer rest ih =>
      rw [collectAll_cons]
      rcases List.mem_cons.1 listed with rfl | listed
      · obtain ⟨fault, missing⟩ := lawful.collectTo_missing c absent
        have first : collectLayer files (.file path) c = .error fault := missing
        exact ⟨fault, by rw [first]; rfl⟩
      · cases collectLayer files layer c with
        | error fault => exact ⟨fault, rfl⟩
        | ok c' => exact ih listed c'

theorem text?_of_asText? (lawful : Library.Lawful) {v : Tree} {t : String} (h : v.asText? = some t) :
    Library.text? v = some t := by
  cases v with
  | scalar origin value =>
      cases value with
      | text t' =>
          obtain rfl : t' = t := Option.some.inj h
          exact lawful.text?_text origin t'
      | _ => cases h
  | _ => cases h

theorem mapM_text?_of_map (lawful : Library.Lawful) {items : List Tree} {list : List String}
    (h : items.map Tree.asText? = list.map some) : items.mapM Library.text? = some list := by
  induction items generalizing list with
  | nil =>
      cases list with
      | nil => rfl
      | cons => cases h
  | cons item rest ih =>
      cases list with
      | nil => cases h
      | cons t list =>
          obtain ⟨first, later⟩ := List.cons.inj h
          rw [List.mapM_cons, text?_of_asText? lawful first, ih later]
          rfl

theorem read?_of_shows (lawful : Library.Lawful) {settings : Settings} {s : Setting} {v : Tree}
    (h : v.Shows (content settings s)) : s.read? v = some (content settings s) := by
  have text {t : String} (h : v.Shows (.text t)) : (Library.text? v).map Content.text = some (.text t) := by
    rw [text?_of_asText? lawful (Tree.shows_text_iff.1 h), Option.map_some]
  cases s with
  | scopePrefixes =>
      obtain ⟨origin, items, rfl, texts⟩ := Tree.shows_texts_iff.1 h
      rw [Setting.read?, lawful.list?_array, Option.bind_some, mapM_text?_of_map lawful texts]
      rfl
  | itemsBinding => exact text h
  | itemAlias => exact text h
  | indexAlias => exact text h
  | logLevel => exact text h

theorem collect_default (lawful : Library.Lawful) (files : Files) :
    ∃ c, Library.collectTo files Library.empty (.text defaultDocument) = .ok c ∧
      ∀ s : Setting, ∃ v, Library.get? c s.key = some v ∧ s.read? v = some (content default s) := by
  obtain ⟨document, parsed, sections, shown⟩ := lawful.parse_default
  obtain ⟨c, collected, merged⟩ := lawful.collectTo_text files Library.empty parsed sections
  refine ⟨c, collected, fun s => ?_⟩
  obtain ⟨v, given, shows⟩ := shown s
  exact ⟨v, by rw [merged s, Option.mem_def.1 given, Option.some_or], read?_of_shows lawful shows⟩

theorem load_spec (lawful : Library.Lawful) (h : Regular files layers) (complete : Complete files layers) :
    ∃ c, load files layers = Library.deserialize c ∧
      ∀ s : Setting, ∃ v, Library.get? c s.key = some v ∧ s.read? v = outcome? files layers s := by
  obtain ⟨c₀, default, shown⟩ := collect_default lawful files
  obtain ⟨c, collected, below⟩ := collectAll_spec lawful h complete c₀
  refine ⟨setAll layers c, ?_, fun s => ?_⟩
  · simp only [load_eq lawful h, default, collected, bind, Except.bind]
  · obtain ⟨v, found, read⟩ := shown s
    have places : Library.get? (setAll layers c) s.key = (winner? files layers s).or (some v) := by
      rw [setAll_spec lawful h, below, found, winner?, Option.or_assoc]
    rw [outcome?, places]
    cases winner? files layers s with
    | none => exact ⟨v, rfl, read⟩
    | some w => exact ⟨w, rfl, rfl⟩

theorem load_eq_ok_iff (lawful : Library.Lawful) (h : Regular files layers) (complete : Complete files layers)
    {settings : Settings} :
    load files layers = .ok settings ↔ ∀ s, outcome? files layers s = some (content settings s) := by
  obtain ⟨c, loaded, places⟩ := load_spec lawful h complete
  have present (s : Setting) : (Library.get? c s.key).isSome := by
    obtain ⟨v, found, -⟩ := places s
    rw [found]
    rfl
  rw [loaded, lawful.deserialize_eq_ok_iff present]
  refine forall_congr' fun s => ?_
  obtain ⟨v, found, read⟩ := places s
  rw [found, Option.bind_some, read]

theorem exists_content_eq {contents : Setting → Content} (h : ∀ s, ∃ v, s.read? v = some (contents s)) :
    ∃ settings, ∀ s, content settings s = contents s := by
  have plain (s : Setting) (other : ∀ v, s.read? v = (Library.text? v).map .text) :
      ∃ text, contents s = .text text := by
    obtain ⟨v, read⟩ := h s
    rw [other, Option.map_eq_some_iff] at read
    exact read.imp fun _ hr => hr.2.symm
  obtain ⟨v, read⟩ := h .scopePrefixes
  obtain ⟨scopePrefixes, -, hs⟩ := Option.map_eq_some_iff.1 read
  obtain ⟨items, hi⟩ := plain .itemsBinding fun _ => rfl
  obtain ⟨item, hj⟩ := plain .itemAlias fun _ => rfl
  obtain ⟨index, hk⟩ := plain .indexAlias fun _ => rfl
  obtain ⟨logLevel, hl⟩ := plain .logLevel fun _ => rfl
  refine ⟨{ scopePrefixes, repeater := { items, item, index }, logLevel }, fun s => ?_⟩
  cases s
  · exact hs
  · exact hi.symm
  · exact hj.symm
  · exact hk.symm
  · exact hl.symm

theorem exists_load_eq_ok_iff (lawful : Library.Lawful) (h : Regular files layers)
    (complete : Complete files layers) :
    (∃ settings, load files layers = .ok settings) ↔ ∀ s, ∃ c, outcome? files layers s = some c := by
  constructor
  · rintro ⟨settings, loaded⟩ s
    exact ⟨_, (load_eq_ok_iff lawful h complete).1 loaded s⟩
  · intro each
    choose contents given using each
    obtain ⟨c, -, places⟩ := load_spec lawful h complete
    have readable (s : Setting) : ∃ v, s.read? v = some (contents s) := by
      obtain ⟨v, -, read⟩ := places s
      exact ⟨v, read.trans (given s)⟩
    obtain ⟨settings, same⟩ := exists_content_eq readable
    exact ⟨settings, (load_eq_ok_iff lawful h complete).2 fun s => by rw [given, same]⟩

theorem load_eq_error_iff (lawful : Library.Lawful) (h : Regular files layers) (complete : Complete files layers) :
    (∃ fault, load files layers = .error fault) ↔ ∃ s v, winner? files layers s = some v ∧ s.read? v = none := by
  calc (∃ fault, load files layers = .error fault)
      ↔ ¬ ∃ settings, load files layers = .ok settings := by cases load files layers <;> simp
    _ ↔ ∃ s, outcome? files layers s = none := by
        rw [exists_load_eq_ok_iff lawful h complete]
        simp only [not_forall, ← Option.ne_none_iff_exists', not_not]
    _ ↔ ∃ s v, winner? files layers s = some v ∧ s.read? v = none := by
        refine exists_congr fun s => ?_
        rw [outcome?]
        cases winner? files layers s <;> simp

theorem load_error_of_absent (lawful : Library.Lawful) (h : Regular files layers) (listed : .file path ∈ layers)
    (absent : Library.resolve? files path = none) : ∃ fault, load files layers = .error fault := by
  obtain ⟨c, default, -⟩ := collect_default lawful files
  obtain ⟨fault, missing⟩ := collectAll_error lawful listed absent c
  exact ⟨fault, by simp only [load_eq lawful h, default, missing, bind, Except.bind]⟩

theorem load_error_of_not_complete (lawful : Library.Lawful) (h : Regular files layers)
    (incomplete : ¬ Complete files layers) : ∃ fault, load files layers = .error fault := by
  simp only [Complete, not_forall, Option.not_isSome_iff_eq_none] at incomplete
  obtain ⟨path, listed, absent⟩ := incomplete
  exact load_error_of_absent lawful h listed absent

theorem complete_of_load (lawful : Library.Lawful) (h : Regular files layers) {settings : Settings}
    (loaded : load files layers = .ok settings) : Complete files layers := by
  by_contra incomplete
  obtain ⟨fault, failed⟩ := load_error_of_not_complete lawful h incomplete
  rw [loaded] at failed
  cases failed

section Replacing

variable {s : Setting} {v : Tree} {before after : List Layer}

theorem winner?_middle : winner? files (before ++ layer :: after) s =
    ((lastGiven? (Layer.inOverride? s) after).or ((layer.inOverride? s).or (lastGiven? (Layer.inOverride? s) before))).or
      ((lastGiven? (Layer.inFile? files s) after).or
        ((layer.inFile? files s).or (lastGiven? (Layer.inFile? files s) before))) := by
  rw [winner?, lastGiven?_middle, lastGiven?_middle]

theorem replaced_iff : Replaced files s before layer after ↔
    (lastGiven? (Layer.inOverride? s) after).isSome ∨
      layer.isOverride = false ∧
        ((lastGiven? (Layer.inFile? files s) after).isSome ∨ (lastGiven? (Layer.inOverride? s) before).isSome) := by
  rw [Replaced, isSome_lastGiven?, isSome_lastGiven?, isSome_lastGiven?]

theorem winner?_of_not_replaced (given : layer.value? files s = some v)
    (lasting : ¬ Replaced files s before layer after) : winner? files (before ++ layer :: after) s = some v := by
  rw [Layer.value?] at given
  simp only [replaced_iff, not_or, not_and, Option.not_isSome_iff_eq_none] at lasting
  obtain ⟨noOverride, asFile⟩ := lasting
  rw [winner?_middle, noOverride, Option.none_or]
  cases kind : layer.isOverride with
  | true =>
      rw [Layer.inFile?_eq_none_of_isOverride kind, Option.or_none] at given
      rw [given, Option.some_or, Option.some_or]
  | false =>
      rw [Layer.inOverride?_eq_none kind, Option.none_or] at given ⊢
      rw [(asFile kind).1, (asFile kind).2, given]
      rfl

theorem winner?_of_replaced (replaced : Replaced files s before layer after) :
    winner? files (before ++ layer :: after) s = winner? files (before ++ after) s := by
  rw [winner?_middle, winner?, lastGiven?_append, lastGiven?_append]
  rcases replaced_iff.1 replaced with covering | ⟨kind, covering⟩
  · obtain ⟨v, last⟩ := Option.isSome_iff_exists.1 covering
    simp [last]
  · -- A file gives no override, so whatever override there is stays the last one.
    rw [Layer.inOverride?_eq_none kind]
    rcases covering with covering | covering <;>
      · obtain ⟨v, last⟩ := Option.isSome_iff_exists.1 covering
        cases lastGiven? (Layer.inOverride? s) after <;> simp [last]

theorem mem_of_winner? (h : winner? files layers s = some v) : ∃ layer ∈ layers, layer.value? files s = some v := by
  rcases Option.or_eq_some_iff.1 h with won | ⟨-, won⟩
  · obtain ⟨layer, listed, given⟩ := mem_of_lastGiven? won
    exact ⟨layer, listed, by rw [Layer.value?, given, Option.some_or]⟩
  · obtain ⟨layer, listed, given⟩ := mem_of_lastGiven? won
    refine ⟨layer, listed, ?_⟩
    cases kind : layer.isOverride with
    | true => rw [Layer.inFile?_eq_none_of_isOverride kind] at given; cases given
    | false => rw [Layer.value?, Layer.inOverride?_eq_none kind, given, Option.none_or]

theorem load_error_of_not_replaced (lawful : Library.Lawful) (h : Regular files (before ++ layer :: after))
    (given : layer.value? files s = some v) (unread : s.read? v = none)
    (lasting : ¬ Replaced files s before layer after) :
    ∃ fault, load files (before ++ layer :: after) = .error fault := by
  by_cases complete : Complete files (before ++ layer :: after)
  · exact (load_eq_error_iff lawful h complete).2 ⟨s, v, winner?_of_not_replaced given lasting, unread⟩
  · exact load_error_of_not_complete lawful h complete

theorem not_replaced_of_load_error (lawful : Library.Lawful)
    (h : Regular files (before ++ layer :: after))
    (complete : Complete files (before ++ layer :: after)) (elsewhere : ∀ s', s' ≠ s → layer.Readable files s')
    (others : ∀ other ∈ before ++ after, ∀ s', other.Readable files s')
    (failed : ∃ fault, load files (before ++ layer :: after) = .error fault) :
    ¬ Replaced files s before layer after := by
  intro replaced
  obtain ⟨s', v, won, unread⟩ := (load_eq_error_iff lawful h complete).1 failed
  by_cases same : s' = s
  · subst same
    rw [winner?_of_replaced replaced] at won
    obtain ⟨other, listed, given⟩ := mem_of_winner? won
    exact others other listed s' v given unread
  · obtain ⟨other, listed, given⟩ := mem_of_winner? won
    rcases List.mem_append.1 listed with earlier | later
    · exact others other (List.mem_append_left _ earlier) s' v given unread
    · rcases List.mem_cons.1 later with rfl | later
      · exact elsewhere s' same v given unread
      · exact others other (List.mem_append_right _ later) s' v given unread

end Replacing

theorem load_congr (lawful : Library.Lawful) {layers' : List Layer} (h : Regular files layers)
    (h' : Regular files layers') (sources : layers.filterMap Layer.source? = layers'.filterMap Layer.source?)
    (entries : layers.filterMap Layer.entry? = layers'.filterMap Layer.entry?) :
    load files layers = load files layers' := by
  have collect : collectAll files layers = collectAll files layers' :=
    funext fun c => by rw [collectAll, collectAll, sources]
  have set (c : Library.Config) : setAll layers c = setAll layers' c := by rw [setAll, setAll, entries]
  simp only [load_eq lawful h, load_eq lawful h', collect, set]

theorem load_eq_of_filter_eq (lawful : Library.Lawful) (h : Regular files layers) {layers' : List Layer}
    (overrides : layers'.filter (·.isOverride) = layers.filter (·.isOverride))
    (documents : (layers'.filter fun layer => !layer.isOverride) = layers.filter fun layer => !layer.isOverride) :
    load files layers' = load files layers := by
  have regular : Regular files layers' := by
    intro layer listed
    -- a layer is in the part of its kind, and both lists have the same parts
    cases kind : layer.isOverride with
    | true =>
        have part : layer ∈ layers'.filter (·.isOverride) := List.mem_filter.2 ⟨listed, kind⟩
        exact h layer (List.mem_of_mem_filter (overrides ▸ part))
    | false =>
        have part : layer ∈ layers'.filter fun layer => !layer.isOverride :=
          List.mem_filter.2 ⟨listed, by rw [kind]; rfl⟩
        exact h layer (List.mem_of_mem_filter (documents ▸ part))
  apply load_congr lawful regular h
  · rw [← filterMap_source?_filter, documents, filterMap_source?_filter]
  · rw [← filterMap_entry?_filter, overrides, filterMap_entry?_filter]

theorem collectAll_of_absent (lawful : Library.Lawful) (before after : List Layer)
    (absent : Library.resolve? files path = none) :
    collectAll files (before ++ .optionalFile path :: after) = collectAll files (before ++ after) := by
  induction before with
  | nil =>
      funext c
      have first : collectLayer files (.optionalFile path) c = .ok c := lawful.collectTo_absent c absent
      rw [List.nil_append, List.nil_append, collectAll_cons, first]
      rfl
  | cons layer rest ih =>
      funext c
      rw [List.cons_append, List.cons_append, collectAll_cons, collectAll_cons, ih]

theorem load_of_absent (lawful : Library.Lawful) {before after : List Layer}
    (h : Regular files (before ++ .optionalFile path :: after)) (absent : Library.resolve? files path = none) :
    load files (before ++ .optionalFile path :: after) = load files (before ++ after) := by
  have regular : Regular files (before ++ after) := fun layer listed => h layer <| by
    rcases List.mem_append.1 listed with earlier | later
    · exact List.mem_append_left _ earlier
    · exact List.mem_append_right _ (List.mem_cons_of_mem _ later)
  have set (c : Library.Config) : setAll (before ++ .optionalFile path :: after) c = setAll (before ++ after) c := by
    rw [setAll, setAll, List.filterMap_append, List.filterMap_append]
    rfl
  rw [load_eq lawful h, load_eq lawful regular, collectAll_of_absent lawful before after absent]
  simp only [set]

end Load

theorem load_precedence (lawful : Library.Lawful) {files : Files} {layers : List Layer} (h : Regular files layers) :
    (∀ settings, load files layers = .ok settings ↔
      Complete files layers ∧ ∀ s, outcome? files layers s = some (content settings s)) ∧
    (∀ settings, Complete files layers →
      (∀ s, (winner? files layers s).elim (content settings s = content default s) (·.Shows (content settings s))) →
      load files layers = .ok settings) ∧
    (∀ before path after, layers = before ++ .optionalFile path :: after → Library.resolve? files path = none →
      load files layers = load files (before ++ after)) ∧
    (∀ path, .file path ∈ layers → Library.resolve? files path = none → ∃ fault, load files layers = .error fault) ∧
    (∀ layers' : List Layer, layers'.filter (·.isOverride) = layers.filter (·.isOverride) →
      (layers'.filter fun layer => !layer.isOverride) = (layers.filter fun layer => !layer.isOverride) →
      load files layers' = load files layers) ∧
    (∀ before layer after s v, layers = before ++ layer :: after → layer.value? files s = some v → s.read? v = none →
      (¬ Replaced files s before layer after → ∃ fault, load files layers = .error fault) ∧
      (Complete files layers → (∀ s', s' ≠ s → layer.Readable files s') →
        (∀ other ∈ before ++ after, ∀ s', other.Readable files s') →
        ((∃ fault, load files layers = .error fault) ↔ ¬ Replaced files s before layer after))) := by
  refine ⟨fun settings => ⟨fun loaded => ?_, fun ⟨complete, read⟩ => (load_eq_ok_iff lawful h complete).2 read⟩,
    fun settings complete shown => (load_eq_ok_iff lawful h complete).2 fun s => ?_, ?_,
    fun path => load_error_of_absent lawful h, fun layers' => load_eq_of_filter_eq lawful h, ?_⟩
  · have complete := complete_of_load lawful h loaded
    exact ⟨complete, (load_eq_ok_iff lawful h complete).1 loaded⟩
  · have here := shown s
    rw [outcome?]
    cases won : winner? files layers s with
    | none =>
        rw [won] at here
        exact congrArg some here.symm
    | some v =>
        rw [won] at here
        exact read?_of_shows lawful here
  · rintro before path after rfl absent
    exact load_of_absent lawful h absent
  · rintro before layer after s v rfl given unread
    refine ⟨load_error_of_not_replaced lawful h given unread, fun complete elsewhere others => ⟨?_, ?_⟩⟩
    · exact not_replaced_of_load_error lawful h complete elsewhere others
    · exact load_error_of_not_replaced lawful h given unread

end Reader

def shopLayers : List Layer :=
  [.override "log.level" (.text "error"), .file "base.toml", .optionalFile "absent.toml",
    .override "repeater.items_binding" (.text "goods"), .optionalFile "site.toml",
    .override "repeater.items_binding" (.text "rows")]

def shopFiles : Files := fun path =>
  if path = "base.toml" then .ok "[bindings]\nscope_prefixes = [\"row.\", \"page.\"]\n[repeater]\nitem_alias = \"row\"\n"
  else if path = "site.toml" then .ok "[bindings]\nscope_prefixes = [\"row.\"]\n[log]\nlevel = [\"info\"]\n"
  else .error .notFound

theorem load_precedence_shopLayers :
    Library.Lawful ∧ Regular shopFiles shopLayers ∧ Regular shopFiles shopLayers.tail ∧
      load shopFiles shopLayers =
        .ok { scopePrefixes := ["row."], repeater := { items := "rows", item := "row" }, logLevel := "error" } ∧
      ∃ fault, load shopFiles shopLayers.tail = .error fault := by
  have lawful : Library.Lawful := lawful_treeLibrary
  have regular : Regular shopFiles shopLayers := by decide +kernel
  have regular_tail : Regular shopFiles shopLayers.tail := fun layer listed => regular layer (List.mem_of_mem_tail listed)
  have given : ((Layer.optionalFile "site.toml").value? shopFiles .logLevel).isSome := by decide +kernel
  have unread : ((Layer.optionalFile "site.toml").value? shopFiles .logLevel).bind Setting.logLevel.read? = none := by
    decide +kernel
  refine ⟨lawful, regular, regular_tail, ?_, ?_⟩
  · refine ((load_precedence lawful regular).1 _).2 ⟨?_, ?_⟩
    · intro path listed
      obtain rfl : path = "base.toml" := by simpa [shopLayers] using listed
      decide +kernel
    · intro s
      cases s <;> decide +kernel
  · obtain ⟨-, -, -, -, -, illTyped⟩ := load_precedence lawful regular_tail
    obtain ⟨v, hv⟩ := Option.isSome_iff_exists.1 given
    rw [hv, Option.bind_some] at unread
    refine (illTyped (shopLayers.tail.take 3) _ (shopLayers.tail.drop 4) .logLevel v rfl hv unread).1 ?_
    rw [Replaced]
    decide +kernel

end Storefront.Settings
