import Mathlib.Data.List.Flatten
import Storefront.Proofs.Wrapper.Grammar

namespace Storefront

theorem Text.isBlank_of_isAlphanum {c : Char} (h : c.isAlphanum = true) : Text.isBlank c = false := by
  change (decide (65 ≤ c.val ∧ c.val ≤ 90) || (decide (97 ≤ c.val) && decide (c.val ≤ 122)) ||
    (decide (48 ≤ c.val) && decide (c.val ≤ 57))) = true at h
  simp only [Bool.or_eq_true, Bool.and_eq_true, decide_eq_true_eq, UInt32.le_iff_toNat_le] at h
  change (((65 ≤ c.toNat ∧ c.toNat ≤ 90) ∨ (97 ≤ c.toNat ∧ c.toNat ≤ 122)) ∨ (48 ≤ c.toNat ∧ c.toNat ≤ 57)) at h
  simp only [isBlank, Bool.or_eq_false_iff, Bool.and_eq_false_iff, decide_eq_false_iff_not, beq_eq_false_iff_ne]
  omega

namespace Wrapper

variable {w u : Wrapper} {m m' : Mark} {parts : List (Mark × List Char)} {p : Mark × List Char}

section Segments

def marked (m : Mark) (texts : List String) : List (Mark × List Char) := texts.map fun text => (m, text.toList)

def segments (w : Wrapper) : List (Mark × List Char) := marked .hash w.id.toList ++ marked .dot w.classes

theorem mem_segments : p ∈ w.segments ↔
    (∃ id, w.id = some id ∧ p = (.hash, id.toList)) ∨ ∃ text ∈ w.classes, p = (.dot, text.toList) := by
  simp only [segments, marked, List.mem_append, List.mem_map, Option.mem_toList, eq_comm]

theorem toList_selector (w : Wrapper) : w.selector.toList = w.tag.toList ++ written w.segments := by
  obtain ⟨tag, id, classes⟩ := w
  cases id <;> simp [selector, segments, marked, written, Mark.toChar, String.toList_join, List.flatMap_map]

def compact (w : Wrapper) : Wrapper :=
  { w with id := w.id.filter (· ≠ ""), classes := w.classes.filter (· ≠ "") }

theorem filter_marked (m : Mark) (texts : List String) :
    (marked m texts).filter (fun p => p.2 ≠ []) = marked m (texts.filter (· ≠ "")) := by
  have same : (fun p : Mark × List Char => decide (p.2 ≠ [])) ∘ (fun text => (m, text.toList))
      = fun text : String => decide (text ≠ "") := by
    funext text
    simp
  rw [marked, List.filter_map, same, marked]

theorem segments_compact (w : Wrapper) : w.compact.segments = w.segments.filter fun p => p.2 ≠ [] := by
  rw [segments, segments, List.filter_append, filter_marked, filter_marked, compact, Option.toList_filter]

theorem behind_marked (m : Mark) (texts : List String) : behind m (marked m texts) = texts.filter (· ≠ "") := by
  have same : (marked m texts).filter (fun p => p.1 = m ∧ p.2 ≠ []) = (marked m texts).filter fun p => p.2 ≠ [] := by
    apply List.filter_congr
    intro p hp
    obtain ⟨text, -, rfl⟩ := List.mem_map.1 hp
    simp
  rw [behind, same, filter_marked, marked, List.map_map]
  simp [Function.comp_def]

theorem behind_marked_of_ne (h : m' ≠ m) (texts : List String) : behind m (marked m' texts) = [] := by
  simp [behind, marked, h]

theorem WellFormed.compact_eq (h : w.WellFormed) : w.compact = w := by
  have id_kept : w.id.filter (· ≠ "") = w.id := by
    cases hid : w.id with
    | none => rfl
    | some id => exact if_pos (decide_eq_true (h.id_part id hid).1)
  have classes_kept : w.classes.filter (· ≠ "") = w.classes := by
    simpa [List.filter_eq_self] using fun text hm => (h.classes_part text hm).1
  rw [compact, id_kept, classes_kept]

end Segments

structure Spelled (w : Wrapper) : Prop where
  tag_letter : ∃ c rest, w.tag.toList = c :: rest ∧ c.isAlpha = true
  tag_alphanum : ∀ c ∈ w.tag.toList, c.isAlphanum = true
  segments_plain : ∀ p ∈ w.segments, Plain p.2

theorem WellFormed.spelled (h : w.WellFormed) : w.Spelled where
  tag_letter := h.tag_letter
  tag_alphanum := h.tag_alphanum
  segments_plain := by
    intro p hp
    rcases mem_segments.1 hp with ⟨id, hid, rfl⟩ | ⟨text, hm, rfl⟩
    · exact (h.id_part id hid).2
    · exact (h.classes_part text hm).2

namespace Spelled

def descriptor (h : w.Spelled) : Descriptor where
  run := w.tag.toList
  junk := []
  segments := w.segments
  run_alphanum := h.tag_alphanum
  run_longest := by simp
  junk_plain := ⟨List.not_mem_nil, List.not_mem_nil⟩
  segments_plain := h.segments_plain

theorem text_descriptor (h : w.Spelled) : h.descriptor.text = w.selector.toList := by
  rw [toList_selector]
  rfl

theorem wrapper_descriptor (h : w.Spelled) : h.descriptor.wrapper = w.compact := by
  obtain ⟨c, rest, tag, alpha⟩ := h.tag_letter
  have tag_kept : h.descriptor.tag = w.tag := by
    have letter : w.tag.toList.head?.any Char.isAlpha = true := by simp [tag, alpha]
    rw [Descriptor.tag, descriptor, if_pos letter, String.ofList_toList]
  have ids : behind .hash w.segments = w.id.toList.filter (· ≠ "") := by
    rw [segments, behind_append, behind_marked, behind_marked_of_ne (by decide), List.append_nil]
  have classes : behind .dot w.segments = w.classes.filter (· ≠ "") := by
    rw [segments, behind_append, behind_marked, behind_marked_of_ne (by decide), List.nil_append]
  rw [Descriptor.wrapper, tag_kept, compact, ← classes, ← Option.head?_toList (o := w.id.filter _),
    Option.toList_filter, ← ids]
  rfl

theorem parse_eq_compact {text : String} (h : u.Spelled) (ht : Text.Trims text.toList u.selector.toList) :
    parse text = u.compact := by
  rw [parse_eq, ht.trim_eq, ← h.text_descriptor, ofTrimmed_text, h.wrapper_descriptor]

end Spelled

section Stripping

def rstrip (text : String) : String := String.ofList (text.toList.rdropWhile Text.isBlank)

/-- The wrapper without the blanks at the end of its selector: in the last class or, without classes, in the id. -/
def stripped (w : Wrapper) : Wrapper :=
  match w.classes.getLast? with
  | some last => { w with classes := w.classes.dropLast ++ [rstrip last] }
  | none => { w with id := w.id.map rstrip }

theorem tag_stripped (w : Wrapper) : w.stripped.tag = w.tag := by
  rw [stripped]
  split <;> rfl

theorem segments_stripped (w : Wrapper) :
    (w.segments = [] ∧ w.stripped.segments = []) ∨
      ∃ parts m t, w.segments = parts ++ [(m, t)] ∧
        w.stripped.segments = parts ++ [(m, t.rdropWhile Text.isBlank)] := by
  rcases List.eq_nil_or_concat w.classes with none | ⟨init, last, classes⟩
  · cases hid : w.id with
    | none => exact .inl (by simp [segments, marked, stripped, none, hid])
    | some id => exact .inr ⟨[], .hash, id.toList, by simp [segments, marked, stripped, rstrip, none, hid]⟩
  · rw [List.concat_eq_append] at classes
    refine .inr ⟨marked .hash w.id.toList ++ marked .dot init, .dot, last.toList, ?_⟩
    simp [segments, marked, stripped, rstrip, classes]

theorem Spelled.stripped (h : w.Spelled) : w.stripped.Spelled := by
  refine ⟨w.tag_stripped ▸ h.tag_letter, w.tag_stripped ▸ h.tag_alphanum, ?_⟩
  have plain := h.segments_plain
  rcases w.segments_stripped with ⟨-, none⟩ | ⟨parts, m, t, segments, stripped⟩
  · simp [none]
  · rw [segments, List.forall_mem_append, List.forall_mem_singleton] at plain
    rw [stripped, List.forall_mem_append, List.forall_mem_singleton]
    obtain ⟨before, hash, dot⟩ := plain
    have kept : t.rdropWhile Text.isBlank ⊆ t := (List.rdropWhile_prefix Text.isBlank t).subset
    exact ⟨before, fun hm => hash (kept hm), fun hm => dot (kept hm)⟩

theorem Spelled.isTrimmed_selector (h : w.Spelled)
    (last : ∀ c ∈ w.selector.toList.getLast?, Text.isBlank c = false) : Text.IsTrimmed w.selector.toList := by
  refine ⟨fun c hc => ?_, last⟩
  obtain ⟨first, rest, tag, -⟩ := h.tag_letter
  have alphanum := h.tag_alphanum
  rw [toList_selector, tag] at hc
  rw [tag] at alphanum
  obtain rfl : first = c := by simpa using hc
  exact Text.isBlank_of_isAlphanum (alphanum _ (List.mem_cons_self ..))

theorem written_concat (parts : List (Mark × List Char)) (m : Mark) (t : List Char) :
    written (parts ++ [(m, t)]) = written parts ++ m.toChar :: t := by
  simp [written]

theorem getLast?_mark (front : List Char) (m : Mark) (t : List Char) :
    ∀ c ∈ (front ++ m.toChar :: t.rdropWhile Text.isBlank).getLast?, Text.isBlank c = false := by
  intro c hc
  rw [List.getLast?_append_cons, List.getLast?_cons] at hc
  cases hl : (t.rdropWhile Text.isBlank).getLast? with
  | none =>
      obtain rfl : m.toChar = c := by simpa [hl] using hc
      cases m <;> rfl
  | some last =>
      obtain rfl : last = c := by simpa [hl] using hc
      exact Text.getLast?_rdropWhile t last hl

theorem Spelled.trims_stripped (h : w.Spelled) : Text.Trims w.selector.toList w.stripped.selector.toList := by
  have selector := w.stripped.toList_selector
  rw [tag_stripped] at selector
  rcases w.segments_stripped with ⟨none, none'⟩ | ⟨parts, m, t, segments, stripped⟩
  · have same : w.selector.toList = w.tag.toList := by simp [toList_selector, none, written]
    have same' : w.stripped.selector.toList = w.tag.toList := by simp [selector, none', written]
    refine ⟨[], [], by simp [same, same'], by simp, h.stripped.isTrimmed_selector fun c hc => ?_⟩
    rw [same'] at hc
    exact Text.isBlank_of_isAlphanum (h.tag_alphanum c (List.mem_of_getLast? hc))
  · rw [stripped, written_concat, ← List.append_assoc] at selector
    refine ⟨[], t.rtakeWhile Text.isBlank, ?_, fun c hc => List.mem_rtakeWhile_imp hc,
      h.stripped.isTrimmed_selector ?_⟩
    · rw [selector, toList_selector, segments, written_concat]
      simp
    · rw [selector]
      exact getLast?_mark _ m t

end Stripping

section Return

theorem parse_selector (h : w.WellFormed) : parse w.selector = w.stripped.compact :=
  h.spelled.stripped.parse_eq_compact h.spelled.trims_stripped

theorem length_selector_compact_le (w : Wrapper) :
    w.compact.selector.toList.length ≤ w.selector.toList.length := by
  have parts : (written w.compact.segments).length ≤ (written w.segments).length := by
    rw [segments_compact]
    exact (List.filter_sublist.flatMap _).length_le
  have tag : w.compact.tag = w.tag := rfl
  rw [toList_selector, toList_selector, tag, List.length_append, List.length_append]
  omega

theorem parse_selector_eq_iff (h : w.WellFormed) :
    parse w.selector = w ↔ ∀ c ∈ w.selector.toList.getLast?, Text.isBlank c = false := by
  constructor
  · intro back
    obtain ⟨before, after, whole, -, trimmed⟩ := h.spelled.trims_stripped
    have shorter := w.stripped.length_selector_compact_le
    rw [← parse_selector h, back, whole, List.length_append, List.length_append] at shorter
    have no_before : before = [] := List.length_eq_zero_iff.1 (by omega)
    have no_after : after = [] := List.length_eq_zero_iff.1 (by omega)
    rw [whole, no_before, no_after, List.nil_append, List.append_nil]
    exact trimmed.2
  · intro last
    have trims : Text.Trims w.selector.toList w.selector.toList :=
      ⟨[], [], by simp, by simp, h.spelled.isTrimmed_selector last⟩
    rw [h.spelled.parse_eq_compact trims, h.compact_eq]

theorem isBlank_of_mem_selector {d : Descriptor} (h : ∀ c ∈ d.text, Text.isBlank c = false) :
    ∀ c ∈ d.wrapper.selector.toList, Text.isBlank c = false := by
  have in_text {m : Mark} {text : String} (hm : text ∈ behind m d.segments) : text.toList ⊆ d.text := by
    obtain ⟨p, listed, -, hp⟩ := exists_of_mem_behind hm
    intro c hc
    have written : c ∈ written d.segments :=
      List.mem_flatMap.2 ⟨p, listed, List.mem_cons_of_mem _ (hp ▸ hc)⟩
    simp [Descriptor.text, written]
  intro c hc
  rw [toList_selector, List.mem_append] at hc
  rcases hc with hc | hc
  · exact Text.isBlank_of_isAlphanum ((wellFormed_wrapper d).tag_alphanum c hc)
  · obtain ⟨p, listed, hc⟩ := List.mem_flatMap.1 hc
    rcases List.mem_cons.1 hc with rfl | hc
    · cases p.1 <;> rfl
    · rcases mem_segments.1 listed with ⟨id, hid, rfl⟩ | ⟨text, hm, rfl⟩
      · exact h c (in_text (List.mem_of_head? hid) hc)
      · exact h c (in_text hm hc)

end Return

theorem selector_parses_back (text : String) :
    parse (parse text).selector = (parse text).stripped.compact ∧
    (parse (parse text).selector = parse text ↔
      ∀ c ∈ (parse text).selector.toList.getLast?, Text.isBlank c = false) ∧
    ((∀ c ∈ Text.trim text.toList, Text.isBlank c = false) → parse (parse text).selector = parse text) := by
  have formed := wellFormed_parse text
  refine ⟨parse_selector formed, parse_selector_eq_iff formed, fun solid => (parse_selector_eq_iff formed).2 ?_⟩
  intro c hc
  have listed : c ∈ (parse text).selector.toList := List.mem_of_getLast? hc
  rw [parse_eq_wrapper] at listed
  apply isBlank_of_mem_selector _ c listed
  rwa [Descriptor.text_ofText]

theorem selector_parses_back_heroCard :
    (∀ c ∈ Text.trim " section..wide#hero#top.card ".toList, Text.isBlank c = false) ∧
    (parse " section..wide#hero#top.card ").selector = "section#hero.wide.card" ∧
    parse "section#hero.wide.card" = parse " section..wide#hero#top.card " ∧
    (parse ". #hero.wide card .\t #x").selector = "div#hero. .wide card .\t " ∧
    parse "div#hero. .wide card .\t " = { tag := "div", id := some "hero", classes := [" ", "wide card "] } := by
  have solid : ∀ c ∈ Text.trim " section..wide#hero#top.card ".toList, Text.isBlank c = false := by
    have none : (Text.trim " section..wide#hero#top.card ".toList).any Text.isBlank = false := by decide
    simpa using List.any_eq_false.1 none
  have drawn : (parse " section..wide#hero#top.card ").selector = "section#hero.wide.card" := by decide
  have spaced : (parse ". #hero.wide card .\t #x").selector = "div#hero. .wide card .\t " := by decide
  obtain ⟨-, -, back⟩ := selector_parses_back " section..wide#hero#top.card "
  obtain ⟨stripped, -, -⟩ := selector_parses_back ". #hero.wide card .\t #x"
  rw [drawn] at back
  rw [spaced] at stripped
  exact ⟨solid, drawn, back solid, spaced, stripped.trans (by decide)⟩

theorem selector_movedBlank :
    parse ".b #a" = { tag := "div", id := some "a", classes := ["b "] } ∧
    (parse ".b #a").selector = "div#a.b " ∧
    parse "div#a.b " = { tag := "div", id := some "a", classes := ["b"] } ∧
    parse (parse ".b #a").selector ≠ parse ".b #a" := by decide

end Wrapper

end Storefront
