import Storefront.Proofs.Path.Indices
import Storefront.Proofs.Scope

namespace Storefront.Path

variable {p q d x : String}

theorem segments_dot (p q : String) : segments (p ++ "." ++ q) = segments p ++ segments q := by
  have parts : (p ++ "." ++ q).toList = p.toList ++ '.' :: q.toList := by simp
  rw [segments, parts, dotIndices_append (by decide) (by decide), dotIndices_cons (by decide),
    Text.split_append_mark, List.map_append, segments, segments]

theorem segments_index (hd : IsNumeral d.toList) (p r : String) :
    segments (p ++ "[" ++ d ++ "]" ++ r) = segments (p ++ "." ++ d ++ r) := by
  have brackets : (p ++ "[" ++ d ++ "]" ++ r).toList
      = p.toList ++ '[' :: (d.toList ++ ']' :: r.toList) := by simp
  have dot : (p ++ "." ++ d ++ r).toList = p.toList ++ '.' :: (d.toList ++ r.toList) := by simp
  rw [segments, brackets, dotIndices_index_append hd, segments, dot,
    dotIndices_append (by decide) (by decide), dotIndices_cons (by decide),
    dotIndices_of_notMem (hd.notMem (by decide))]

theorem get_of_ne (hp : p ≠ "") (v : Json) : get v p = walk v (segments p) := by
  simp [get, hp]

theorem resolveWith_append {path : String} (hp : p ≠ "") (hq : q ≠ "") (hpath : path ≠ "")
    (h : segments path = segments p ++ segments q) (lookup : String → Option Json) :
    resolveWith lookup path = (resolveWith lookup p).bind fun w => get w q := by
  simp only [resolveWith, hp, hpath, String.isEmpty_iff, if_false, h]
  cases hs : segments p with
  | nil => exact absurd hs (segments_ne_nil p)
  | cons head rest =>
      cases hl : lookup head with
      | none => simp [hl]
      | some v => simp [hl, walk_append, get_of_ne hq]

def Continues (path p q : String) : Prop :=
  (∀ v, get v path = (get v p).bind fun w => get w q) ∧
  (∀ s : Scope, s.resolve path = (s.resolve p).bind fun w => get w q) ∧
  (∀ page context, resolveIn page context path = (resolveIn page context p).bind fun w => get w q)

theorem continues_of_segments {path : String} (hp : p ≠ "") (hq : q ≠ "") (hpath : path ≠ "")
    (h : segments path = segments p ++ segments q) : Continues path p q := by
  refine ⟨fun v => ?_, fun s => resolveWith_append hp hq hpath h s.lookup,
    fun page context => resolveWith_append hp hq hpath h _⟩
  rw [← resolveWith_step, resolveWith_append hp hq hpath h, resolveWith_step]

theorem paths_compose (hp : p ≠ "") (hq : q ≠ "") (hd : IsNumeral d.toList) :
    Continues (p ++ "." ++ q) p q ∧ Continues (p ++ "[" ++ d ++ "]") p d := by
  have numeral : d ≠ "" := by
    rintro rfl
    exact hd.1 rfl
  have index : segments (p ++ "[" ++ d ++ "]") = segments p ++ segments d := by
    simpa [segments_dot] using segments_index hd p ""
  constructor
  · exact continues_of_segments hp hq (by simp [hp]) (segments_dot p q)
  · exact continues_of_segments hp numeral (by simp [hp]) index

def openShelf : Json := .object [("row[", .object [("0", .string "mug"), ("0]", .string "cup")])]

theorem paths_compose_openShelf :
    "row[" ≠ "" ∧ "0]" ≠ "" ∧ IsNumeral "0".toList ∧
    get openShelf "row[.0]" = some (.string "cup") ∧ get openShelf "row[[0]" = some (.string "mug") := by
  have names : "row[" ≠ "" ∧ "0]" ≠ "" ∧ IsNumeral "0".toList := by decide
  obtain ⟨⟨dot, -⟩, ⟨index, -⟩⟩ := paths_compose names.1 names.2.1 names.2.2
  exact ⟨names.1, names.2.1, names.2.2, (dot openShelf).trans rfl, (index openShelf).trans rfl⟩

theorem index?_eq_some {i : Nat} (h : index? x = some i) :
    IsNumeral x.toList ∨ ∃ d, IsNumeral d.toList ∧ x = "+" ++ d := by
  have numeral {s : List Char} (hs : Text.natOfText? s = some i) : IsNumeral s := by
    obtain ⟨hne, hall⟩ := Text.natOfText?_eq_some hs
    exact ⟨hne, List.all_eq_true.1 hall⟩
  rw [index?] at h
  split at h
  · rename_i digits hx
    refine .inr ⟨String.ofList digits, by simpa using numeral h, ?_⟩
    rw [← String.toList_inj, hx]
    simp
  · exact .inl (numeral h)

theorem dotIndices_literal {x : List Char} (hx : ∀ c ∈ x, c ≠ '.' ∧ c ≠ '[' ∧ c ≠ ']')
    (not_numeral : ¬ IsNumeral x) (a b : List Char) :
    dotIndices none (a ++ '[' :: (x ++ ']' :: b))
      = dotIndices none a ++ (('[' :: (x ++ [']'])) ++ dotIndices none b) := by
  have unclosed : ∀ d r, IsNumeral d → x ++ ']' :: b ≠ d ++ ']' :: r := by
    intro d r hd h
    have no_close : ']' ∉ x := fun hm => (hx _ hm).2.2 rfl
    obtain ⟨rfl, -⟩ := eq_of_append_cons_eq no_close (hd.notMem (by decide)) h
    exact not_numeral hd
  have no_open : '[' ∉ x ++ [']'] := by
    simpa using fun hm => (hx _ hm).2.1 rfl
  have text : x ++ ']' :: b = (x ++ [']']) ++ b := by simp
  rw [dotIndices_append (by decide) (by decide), dotIndices_bracket unclosed, text,
    dotIndices_of_notMem no_open, List.cons_append]

theorem segments_literal {r name first : String} {before others : List String}
    (hx : ∀ c ∈ x.toList, c ≠ '.' ∧ c ≠ '[' ∧ c ≠ ']') (not_numeral : ¬ IsNumeral x.toList)
    (hp : segments p = before ++ [name]) (hr : segments r = first :: others) :
    segments (p ++ "[" ++ x ++ "]" ++ r) = before ++ (name ++ "[" ++ x ++ "]" ++ first) :: others := by
  obtain ⟨_, _, split_p, rfl, hname⟩ := List.map_eq_append_iff.1 hp
  obtain ⟨_, rfl, rfl⟩ := List.map_eq_singleton_iff.1 hname
  obtain ⟨_, _, split_r, rfl, rfl⟩ := List.map_eq_cons_iff.1 hr
  have no_dot : '.' ∉ '[' :: (x.toList ++ [']']) := by
    simpa using fun hm => (hx _ hm).1 rfl
  have one : Text.split '.' ('[' :: (x.toList ++ [']'])) = [] ++ ['[' :: (x.toList ++ [']'])] :=
    Text.split_of_notMem no_dot
  have text : (p ++ "[" ++ x ++ "]" ++ r).toList
      = p.toList ++ '[' :: (x.toList ++ ']' :: r.toList) := by simp
  rw [segments, text, dotIndices_literal hx not_numeral,
    Text.split_append split_p (Text.split_append one split_r)]
  simp [String.append_assoc]

theorem exists_sign_of_selected {v e : Json} {items : List Json}
    (hx : ∀ c ∈ x.toList, c ≠ '.' ∧ c ≠ '[' ∧ c ≠ ']') (hp : p ≠ "")
    (hitems : get v p = some (.array items)) (he : get v (p ++ "." ++ x) = some e) :
    IsNumeral x.toList ∨ ∃ d, IsNumeral d.toList ∧ x = "+" ++ d := by
  have no_dot : '.' ∉ x.toList := fun hm => (hx _ hm).1 rfl
  have no_open : '[' ∉ x.toList := fun hm => (hx _ hm).2.1 rfl
  have single : segments x = [x] := by
    have same : dotIndices none x.toList = x.toList := by
      simpa [dotIndices] using dotIndices_of_notMem no_open []
    rw [segments, same, Text.split_of_notMem no_dot]
    simp
  rw [get_of_ne hp] at hitems
  rw [get_of_ne (by simp [hp]), segments_dot, single, walk_append, hitems] at he
  obtain ⟨i, hi, -⟩ : ∃ i, index? x = some i ∧ items[i]? = some e := by
    simpa [walk, step, Option.bind_eq_some_iff] using he
  exact index?_eq_some hi

theorem bracket_reaches (hp : p ≠ "") (hx : ∀ c ∈ x.toList, c ≠ '.' ∧ c ≠ '[' ∧ c ≠ ']') (v : Json)
    (r : String) :
    (IsNumeral x.toList → get v (p ++ "[" ++ x ++ "]" ++ r) = get v (p ++ "." ++ x ++ r)) ∧
    (∀ items e, get v p = some (.array items) → get v (p ++ "." ++ x) = some e → ¬ IsNumeral x.toList →
      (∃ d, IsNumeral d.toList ∧ x = "+" ++ d) ∧
      ∃ before name first others, segments p = before ++ [name] ∧ segments r = first :: others ∧
        get v (p ++ "[" ++ x ++ "]" ++ r)
          = walk v (before ++ (name ++ "[" ++ x ++ "]" ++ first) :: others)) := by
  refine ⟨fun hd => ?_, fun items e hitems he not_numeral => ⟨?_, ?_⟩⟩
  · rw [get_of_ne (by simp [hp]), get_of_ne (by simp [hp]), segments_index hd]
  · exact (exists_sign_of_selected hx hp hitems he).resolve_left not_numeral
  · obtain ⟨before, name, hsegments⟩ := List.eq_nil_or_concat (segments p) |>.resolve_left (segments_ne_nil p)
    obtain ⟨first, others, hr⟩ := List.exists_cons_of_ne_nil (segments_ne_nil r)
    rw [List.concat_eq_append] at hsegments
    refine ⟨before, name, first, others, hsegments, hr, ?_⟩
    rw [get_of_ne (by simp [hp]), segments_literal hx not_numeral hsegments hr]

def signedShelf : Json :=
  .object [("items", .array [.string "mug"]), ("items[+0]", .object [("size", .string "small")])]

theorem bracket_reaches_signedShelf :
    "items" ≠ "" ∧ (∀ c ∈ "0".toList, c ≠ '.' ∧ c ≠ '[' ∧ c ≠ ']') ∧ IsNumeral "0".toList ∧
    get signedShelf "items[0]" = some (.string "mug") ∧
    (∀ c ∈ "+0".toList, c ≠ '.' ∧ c ≠ '[' ∧ c ≠ ']') ∧ ¬ IsNumeral "+0".toList ∧
    get signedShelf "items" = some (.array [.string "mug"]) ∧
    get signedShelf "items.+0" = some (.string "mug") ∧
    (∃ d, IsNumeral d.toList ∧ "+0" = "+" ++ d) ∧
    get signedShelf "items[+0].size" = some (.string "small") := by
  have items : "items" ≠ "" := by decide
  have plain : ∀ c ∈ "0".toList, c ≠ '.' ∧ c ≠ '[' ∧ c ≠ ']' := by simp
  have signed : ∀ c ∈ "+0".toList, c ≠ '.' ∧ c ≠ '[' ∧ c ≠ ']' := by simp
  have numeral : IsNumeral "0".toList ∧ ¬ IsNumeral "+0".toList := by decide
  have listed : get signedShelf "items" = some (.array [.string "mug"]) := rfl
  have dot : get signedShelf "items.+0" = some (.string "mug") := rfl
  obtain ⟨reached, -⟩ := bracket_reaches items plain signedShelf ""
  obtain ⟨-, literal⟩ := bracket_reaches items signed signedShelf ".size"
  obtain ⟨sign, -⟩ := literal _ _ listed dot numeral.2
  exact ⟨items, plain, numeral.1, (reached numeral.1).trans rfl, signed, numeral.2, listed, dot, sign, rfl⟩

theorem bracket_misses :
    get (.object [("items", .array [.string "mug"])]) "items" = some (.array [.string "mug"]) ∧
    get (.object [("items", .array [.string "mug"])]) "items.+0" = some (.string "mug") ∧
    get (.object [("items", .array [.string "mug"])]) "items[+0]" = none ∧
    get (.array [.string "mug"]) "0" = some (.string "mug") ∧
    get (.array [.string "mug"]) "[0]" = none :=
  ⟨rfl, rfl, rfl, rfl, rfl⟩

end Storefront.Path
