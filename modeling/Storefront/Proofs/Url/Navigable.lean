import Mathlib.Data.List.TakeWhile
import Storefront.Url.Basic

namespace Storefront

namespace Url

theorem isSchemeChar_of_isAlpha {c : Char} (h : c.isAlpha = true) : isSchemeChar c = true := by
  simp [isSchemeChar, Char.isAlphanum, h]

structure IsSchemeName (name : List Char) : Prop where
  letter : ∃ c ∈ name.head?, c.isAlpha = true
  chars : ∀ c ∈ name, isSchemeChar c = true

theorem of_scheme?_eq_some {s scheme rest : List Char} (h : scheme? s = some (scheme, rest)) :
    ∃ name, s = name ++ ':' :: rest ∧ IsSchemeName name ∧ name.map Char.toLower = scheme := by
  simp only [scheme?] at h
  split at h
  · rename_i c after hc hrest
    split at h
    · rename_i letter
      simp only [Option.some.injEq, Prod.mk.injEq] at h
      obtain ⟨hs, rfl⟩ := h
      have whole : s.takeWhile isSchemeChar ++ ':' :: after = s := by
        rw [← hrest, List.takeWhile_append_dropWhile]
      refine ⟨s.takeWhile isSchemeChar, whole.symm, ⟨⟨c, ?_, letter⟩, ?_⟩, hs⟩
      · obtain ⟨others, rfl⟩ := List.head?_eq_some_iff.1 hc
        rw [List.takeWhile_cons_of_pos (isSchemeChar_of_isAlpha letter)]
        rfl
      · exact fun d => List.mem_takeWhile_imp
    · cases h
  · cases h

theorem scheme_of_ofText? {s : List Char} {url : Url} (h : ofText? s = some url) :
    ∃ rest, scheme? (clean s) = some (url.scheme.toList, rest) := by
  simp only [ofText?] at h
  split at h
  · cases h
  · rename_i scheme rest hs
    refine ⟨rest, hs.trans ?_⟩
    split at h
    · rename_i http
      obtain ⟨host, -, rfl⟩ := Option.map_eq_some_iff.1 h
      rw [http, Url.scheme]
    · split at h
      · rename_i https
        obtain ⟨host, -, rfl⟩ := Option.map_eq_some_iff.1 h
        rw [https, Url.scheme]
      · obtain rfl := Option.some.inj h
        rw [Url.scheme, String.toList_ofList]

end Url

namespace UrlReader

variable [UrlReader]

def OnWeb (s : String) : Prop := ∃ url, parse? s = some url ∧ (scheme url = "http" ∨ scheme url = "https")

/-- What is read is absolute: after blanks at its ends and tabs and line breaks are left out, it begins
with the name of its scheme, and the scheme is that name in lower case. -/
def ReadsSchemes : Prop :=
  ∀ s url, parse? s = some url → ∃ name rest, Url.clean s.toList = name ++ ':' :: rest ∧
    Url.IsSchemeName name ∧ scheme url = String.ofList (name.map Char.toLower)

end UrlReader

namespace Url

theorem readsSchemes_reader : UrlReader.ReadsSchemes := by
  intro s url h
  obtain ⟨rest, hs⟩ := scheme_of_ofText? h
  obtain ⟨name, cleaned, formed, lower⟩ := of_scheme?_eq_some hs
  refine ⟨name, rest, cleaned, formed, ?_⟩
  rw [lower, String.ofList_toList]
  rfl

def unbroken (s : List Char) : List Char := s.filter fun c => !isTabOrBreak c

theorem head?_unbroken {s : List Char} {c : Char} : (unbroken s).head? = some c ↔
    isTabOrBreak c = false ∧ ∃ gap rest, s = gap ++ c :: rest ∧ ∀ g ∈ gap, isTabOrBreak g = true := by
  rw [unbroken, List.head?_filter, List.find?_eq_some_iff_append]
  simp

end Url

open Url

/-- A path of the site as a browser takes it: one slash, and neither slash nor backslash after it. -/
structure StaysOnSite (s : List Char) : Prop where
  slash : s.head? = some '/'
  not_slashes : ¬ ['/', '/'] <+: unbroken s
  not_backslash : ¬ ['/', '\\'] <+: unbroken s

/-- A slash and a second slash or backslash, with tabs and line breaks between them: the second one only
follows the first when the text is read as a browser reads it. -/
def HidesSlash (s : List Char) : Prop :=
  ∃ gap c rest, s = '/' :: (gap ++ c :: rest) ∧ gap ≠ [] ∧ (∀ g ∈ gap, isTabOrBreak g = true) ∧
    (c = '/' ∨ c = '\\')

theorem isTabOrBreak_of_isSlash {c : Char} (h : c = '/' ∨ c = '\\') : isTabOrBreak c = false := by
  rcases h with rfl | rfl <;> decide

theorem staysOnSite_cons_iff (rest : List Char) : StaysOnSite ('/' :: rest) ↔
    (unbroken rest).head? ≠ some '/' ∧ (unbroken rest).head? ≠ some '\\' := by
  have first : unbroken ('/' :: rest) = '/' :: unbroken rest := by
    rw [unbroken, List.filter_cons_of_pos (by decide), unbroken]
  have second (c : Char) : ['/', c] <+: unbroken ('/' :: rest) ↔ (unbroken rest).head? = some c := by
    rw [first, List.cons_prefix_cons]
    cases unbroken rest with
    | nil => simp
    | cons d ds => simp [List.cons_prefix_cons, eq_comm]
  constructor
  · rintro ⟨-, hs, hb⟩
    exact ⟨fun h => hs ((second '/').2 h), fun h => hb ((second '\\').2 h)⟩
  · rintro ⟨hs, hb⟩
    exact ⟨rfl, fun h => hs ((second '/').1 h), fun h => hb ((second '\\').1 h)⟩

theorem not_staysOnSite_of_hidesSlash {s : List Char} (h : HidesSlash s) : ¬ StaysOnSite s := by
  obtain ⟨gap, c, rest, rfl, -, hgap, hc⟩ := h
  intro stays
  obtain ⟨hs, hb⟩ := (staysOnSite_cons_iff _).1 stays
  have seen : (unbroken (gap ++ c :: rest)).head? = some c :=
    head?_unbroken.2 ⟨isTabOrBreak_of_isSlash hc, gap, rest, rfl, hgap⟩
  rcases hc with rfl | rfl
  · exact hs seen
  · exact hb seen

theorem head?_ne_of_isSitePath {rest : List Char} (h : isSitePath ('/' :: rest) = true) :
    rest.head? ≠ some '/' ∧ rest.head? ≠ some '\\' := by
  cases rest with
  | nil => simp
  | cons c r =>
      constructor
      · intro hc
        obtain rfl : c = '/' := by simpa using hc
        cases h
      · intro hc
        obtain rfl : c = '\\' := by simpa using hc
        cases h

theorem isSitePath_of_head?_ne {rest : List Char} (hs : rest.head? ≠ some '/')
    (hb : rest.head? ≠ some '\\') : isSitePath ('/' :: rest) = true := by
  unfold isSitePath
  split
  · rename_i heq
    simp only [List.cons.injEq, true_and] at heq
    simp [heq] at hs
  · rename_i heq
    simp only [List.cons.injEq, true_and] at heq
    simp [heq] at hb
  · rfl
  · rename_i h
    exact absurd rfl (h rest)

theorem isSitePath_cons_iff (rest : List Char) : isSitePath ('/' :: rest) = true ↔
    StaysOnSite ('/' :: rest) ∨ HidesSlash ('/' :: rest) := by
  constructor
  · intro h
    obtain ⟨hs, hb⟩ := head?_ne_of_isSitePath h
    by_cases stays : StaysOnSite ('/' :: rest)
    · exact .inl stays
    · right
      -- a browser sees a second slash, which is not the next character
      have seen : ∃ c, (unbroken rest).head? = some c ∧ (c = '/' ∨ c = '\\') := by
        rw [staysOnSite_cons_iff] at stays
        by_cases hslash : (unbroken rest).head? = some '/'
        · exact ⟨'/', hslash, .inl rfl⟩
        · have hback : (unbroken rest).head? = some '\\' := by
            by_contra hne
            exact stays ⟨hslash, hne⟩
          exact ⟨'\\', hback, .inr rfl⟩
      obtain ⟨c, hc, slash⟩ := seen
      obtain ⟨-, gap, after, rfl, hgap⟩ := head?_unbroken.1 hc
      refine ⟨gap, c, after, rfl, ?_, hgap, slash⟩
      rintro rfl
      rcases slash with rfl | rfl
      · exact hs rfl
      · exact hb rfl
  · rintro (stays | ⟨gap, c, after, heq, hne, hgap, -⟩)
    · obtain ⟨hs, hb⟩ := (staysOnSite_cons_iff rest).1 stays
      -- the next character is the one that a browser sees, when it is a slash
      have next (c : Char) (hc : c = '/' ∨ c = '\\') (h : rest.head? = some c) :
          (unbroken rest).head? = some c := by
        obtain ⟨after, rfl⟩ := List.head?_eq_some_iff.1 h
        exact head?_unbroken.2 ⟨isTabOrBreak_of_isSlash hc, [], after, rfl, by simp⟩
      exact isSitePath_of_head?_ne (fun h => hs (next '/' (.inl rfl) h))
        (fun h => hb (next '\\' (.inr rfl) h))
    · obtain rfl : rest = gap ++ c :: after := by simpa using heq
      obtain ⟨g, gs, rfl⟩ := List.exists_cons_of_ne_nil hne
      have tab : isTabOrBreak g = true := hgap g (List.mem_cons_self ..)
      apply isSitePath_of_head?_ne
      · rw [List.cons_append, List.head?_cons]
        rintro ⟨⟩
        exact absurd tab (by decide)
      · rw [List.cons_append, List.head?_cons]
        rintro ⟨⟩
        exact absurd tab (by decide)

theorem clean_of_slash (rest : List Char) : ∃ after, clean ('/' :: rest) = '/' :: after := by
  have front : ('/' :: rest).dropWhile isControlOrSpace = '/' :: rest :=
    List.dropWhile_cons_of_neg (by decide)
  have back : ∃ kept, (rest.reverse ++ ['/']).dropWhile isControlOrSpace = kept ++ ['/'] := by
    rw [List.dropWhile_append]
    split
    · exact ⟨[], List.dropWhile_cons_of_neg (by decide)⟩
    · exact ⟨_, rfl⟩
  obtain ⟨kept, hkept⟩ := back
  refine ⟨unbroken kept.reverse, ?_⟩
  simp only [clean, front, List.reverse_cons, hkept, List.reverse_append, List.reverse_nil,
    List.nil_append, List.singleton_append]
  rw [List.filter_cons_of_pos (by decide), unbroken]

section Reader

variable [UrlReader]

theorem not_onWeb_of_slash (h : UrlReader.ReadsSchemes) {s : String} {rest : List Char}
    (slash : s.toList = '/' :: rest) : ¬ UrlReader.OnWeb s := by
  rintro ⟨url, parsed, -⟩
  obtain ⟨name, after, cleaned, ⟨⟨c, first, letter⟩, -⟩, -⟩ := h s url parsed
  obtain ⟨others, rfl⟩ := List.head?_eq_some_iff.1 first
  obtain ⟨kept, hkept⟩ := clean_of_slash rest
  rw [slash, hkept] at cleaned
  obtain ⟨rfl, -⟩ : '/' = c ∧ _ := by simpa using cleaned
  exact absurd letter (by decide)

theorem isOnWeb_iff (s : String) : isOnWeb s = true ↔ UrlReader.OnWeb s := by
  rw [isOnWeb, UrlReader.OnWeb]
  cases UrlReader.parse? s <;> simp

theorem isNavigable_iff (h : UrlReader.ReadsSchemes) (target : String) : isNavigable target = true ↔
    UrlReader.OnWeb target ∨ StaysOnSite target.toList ∨ HidesSlash target.toList := by
  unfold isNavigable
  split
  · rename_i rest heq
    rw [heq, isSitePath_cons_iff]
    constructor
    · exact .inr
    · rintro (web | site)
      · exact absurd web (not_onWeb_of_slash h heq)
      · exact site
  · rename_i hs
    rw [isOnWeb_iff]
    constructor
    · exact .inl
    · rintro (web | stays | ⟨gap, c, after, heq, -⟩)
      · exact web
      · obtain ⟨rest, hrest⟩ := List.head?_eq_some_iff.1 stays.slash
        exact absurd hrest (hs rest)
      · exact absurd heq (hs _)

end Reader

end Storefront
