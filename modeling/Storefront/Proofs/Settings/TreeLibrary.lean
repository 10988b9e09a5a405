import Storefront.Proofs.Settings.Reading

namespace Storefront.Settings

theorem set_key (t : Tree) (s : Setting) (v : Tree) : t.set s.key v = t.put s.path v := by
  rw [Tree.set, s.ofText?_key, Option.getD_some]

theorem get?_key (t : Tree) (s : Setting) : Library.get? t s.key = t.at? s := by
  show (KeyPath.ofText? s.key).bind _ = _
  rw [s.ofText?_key, Option.bind_some, Tree.find?_path]

theorem Registered.register {sources : List Source} {overrides : List (String × Tree)} {r : Register}
    (h : Registered sources overrides r) : r.sources = sources ∧
      ∀ t : Tree, r.overrides.foldl (fun t o => t.put o.1 o.2) t = overrides.foldl (fun t o => t.set o.1 o.2) t := by
  induction h with
  | new => exact ⟨rfl, fun t => rfl⟩
  | source source _ ih => exact ⟨by rw [← ih.1]; rfl, ih.2⟩
  | @override sources overrides r r' s v plain _ set ih =>
      have registered : r' = { r with overrides := r.overrides ++ [(s.path, v)] } := by
        simp only [Library.setOverride, s.ofText?_key] at set
        exact (Except.ok.inj set).symm
      subst registered
      refine ⟨ih.1, fun t => ?_⟩
      rw [List.foldl_concat, List.foldl_concat, ih.2, set_key]

theorem merged_putDocument {file : Option String} {content : String} {document : Document}
    (parsed : documentOf file content = .ok document) (sections : IsConfiguration document) (t : Tree) :
    Merged t document (putDocument t document) := by
  intro s
  rw [get?_key, get?_key, at?_putDocument sections (isDistinct_documentOf parsed)]

theorem lawful_treeLibrary : Library.Lawful where
  setOverride_key r s v _ := ⟨{ r with overrides := r.overrides ++ [(s.path, v)] }, by
    simp only [Library.setOverride, s.ofText?_key]⟩
  build_eq files h := by
    obtain ⟨rfl, overrides⟩ := h.register
    show Except.map _ _ = Except.map _ _
    simp only [overrides]
    rfl
  collectTo_text files t parsed sections :=
    ⟨_, by simp only [Library.collectTo, collectTo, show documentOf none _ = _ from parsed]; rfl,
      merged_putDocument parsed sections t⟩
  collectTo_file t required resolved parsed sections :=
    ⟨_, by
      simp only [Library.collectTo, collectTo, show fileOf? _ _ = _ from resolved,
        show documentOf (some _) _ = _ from parsed]
      rfl, merged_putDocument parsed sections t⟩
  collectTo_absent t absent := by simp [Library.collectTo, collectTo, show fileOf? _ _ = none from absent]
  collectTo_missing t absent := by simp [Library.collectTo, collectTo, show fileOf? _ _ = none from absent]
  get?_set t s s' v plain := by
    rw [get?_key, get?_key]
    show (t.set s.key v).at? s' = _
    rw [set_key, Tree.at?_put plain]
  deserialize_eq_ok_iff {t settings} present := by
    simp only [get?_key] at present ⊢
    exact ofTree_eq_ok_iff (Tree.sectioned_of_at? present)
  text?_text origin s := rfl
  list?_array origin items := rfl
  parse_default := by
    show ∃ document, documentOf none defaultDocument = .ok document ∧ _
    rw [documentOf, defaultDocument, String.toList_join]
    decide +kernel

end Storefront.Settings
