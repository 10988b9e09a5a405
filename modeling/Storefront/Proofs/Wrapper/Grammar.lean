import Storefront.Proofs.Text.Trim
import Storefront.Wrapper

namespace Storefront.Wrapper

variable {s t : List Char} {c : Char} {m : Mark} {parts : List (Mark × List Char)}

namespace Mark

def toChar : Mark → Char
  | hash => '#'
  | dot => '.'

@[simp] theorem ofChar?_toChar (m : Mark) : ofChar? m.toChar = some m := by
  cases m <;> rfl

theorem ofChar?_eq_some_iff : ofChar? c = some m ↔ c = m.toChar := by
  refine ⟨fun h => ?_, fun h => h ▸ ofChar?_toChar m⟩
  rw [ofChar?] at h
  split at h
  · cases h
    assumption
  · split at h
    · cases h
      assumption
    · cases h

theorem not_isAlphanum_toChar (m : Mark) : m.toChar.isAlphanum = false := by
  cases m <;> rfl

end Mark

def Plain (s : List Char) : Prop := '#' ∉ s ∧ '.' ∉ s

theorem plain_iff : Plain s ↔ ∀ c ∈ s, Mark.ofChar? c = none := by
  simp only [Plain, Option.eq_none_iff_forall_ne_some, ne_eq, Mark.ofChar?_eq_some_iff]
  constructor
  · rintro ⟨hash, dot⟩ c hc m rfl
    cases m
    · exact hash hc
    · exact dot hc
  · exact fun h => ⟨fun hash => h _ hash .hash rfl, fun dot => h _ dot .dot rfl⟩

theorem Plain.of_cons (h : Plain (c :: s)) : Mark.ofChar? c = none ∧ Plain s := by
  rw [plain_iff, List.forall_mem_cons] at h
  exact ⟨h.1, plain_iff.2 h.2⟩

def written (parts : List (Mark × List Char)) : List Char := parts.flatMap fun p => p.1.toChar :: p.2

def behind (mark : Mark) (parts : List (Mark × List Char)) : List String :=
  (parts.filter fun p => p.1 = mark ∧ p.2 ≠ []).map fun p => String.ofList p.2

section Split

theorem split_plain_append (hs : Plain s) (t : List Char) :
    split (s ++ t) = (s ++ (split t).1, (split t).2) := by
  induction s with
  | nil => rfl
  | cons c rest ih =>
      obtain ⟨hc, hrest⟩ := hs.of_cons
      rw [List.cons_append, split, ih hrest, hc]
      rfl

theorem split_mark (m : Mark) (t : List Char) : split (m.toChar :: t) = ([], (m, (split t).1) :: (split t).2) := by
  rw [split, Mark.ofChar?_toChar]

theorem split_written (h : ∀ p ∈ parts, Plain p.2) : split (written parts) = ([], parts) := by
  induction parts with
  | nil => rfl
  | cons p rest ih =>
      obtain ⟨hp, hrest⟩ := List.forall_mem_cons.1 h
      rw [written, List.flatMap_cons, List.cons_append, split_mark, ← written, split_plain_append hp, ih hrest,
        List.append_nil]

theorem plain_of_mem_split : ∀ p ∈ (split s).2, Plain p.2 := by
  induction s with
  | nil => simp [split]
  | cons c rest ih =>
      rw [split]
      cases Mark.ofChar? c with
      | none => exact ih
      | some m =>
          have first : Plain (split rest).1 := plain_iff.2 fun _ => split_fst_no_mark
          exact List.forall_mem_cons.2 ⟨first, ih⟩

theorem append_written_split (s : List Char) : (split s).1 ++ written (split s).2 = s := by
  induction s with
  | nil => rfl
  | cons c rest ih =>
      rw [split]
      cases hc : Mark.ofChar? c with
      | none => exact congrArg (c :: ·) ih
      | some m =>
          obtain rfl : c = m.toChar := Mark.ofChar?_eq_some_iff.1 hc
          exact congrArg (m.toChar :: ·) ih

end Split

/-- A text in its parts: a run of letters and digits, text without meaning, and segments behind marks. -/
@[ext] structure Descriptor where
  run : List Char
  junk : List Char
  segments : List (Mark × List Char)
  run_alphanum : ∀ c ∈ run, c.isAlphanum = true
  run_longest : ∀ c ∈ junk.head?, c.isAlphanum = false
  junk_plain : Plain junk
  segments_plain : ∀ p ∈ segments, Plain p.2

namespace Descriptor

def text (d : Descriptor) : List Char := d.run ++ (d.junk ++ written d.segments)

def tag (d : Descriptor) : String :=
  if d.run.head?.any Char.isAlpha then String.ofList d.run else defaultTag

def wrapper (d : Descriptor) : Wrapper where
  tag := d.tag
  id := (behind .hash d.segments).head?
  classes := behind .dot d.segments

def ofText (s : List Char) : Descriptor where
  run := s.takeWhile Char.isAlphanum
  junk := (split (s.dropWhile Char.isAlphanum)).1
  segments := (split (s.dropWhile Char.isAlphanum)).2
  run_alphanum := fun _ hc => List.mem_takeWhile_imp hc
  run_longest := by
    intro c hc
    apply Text.head?_dropWhile Char.isAlphanum s
    rw [← append_written_split (s.dropWhile Char.isAlphanum)]
    exact List.mem_head?_append_of_mem_head? hc
  junk_plain := plain_iff.2 fun _ => split_fst_no_mark
  segments_plain := plain_of_mem_split

theorem text_ofText (s : List Char) : (ofText s).text = s := by
  rw [text, ofText, append_written_split, List.takeWhile_append_dropWhile]

theorem head?_after_run (d : Descriptor) : ∀ c ∈ (d.junk ++ written d.segments).head?, c.isAlphanum = false := by
  intro c hc
  cases hj : d.junk with
  | cons e rest =>
      rw [hj] at hc
      exact d.run_longest c (hj ▸ hc)
  | nil =>
      rw [hj, List.nil_append] at hc
      cases hs : d.segments with
      | nil => simp [hs, written] at hc
      | cons p rest =>
          obtain rfl : p.1.toChar = c := by simpa [hs, written] using hc
          exact p.1.not_isAlphanum_toChar

theorem takeWhile_text (d : Descriptor) : d.text.takeWhile Char.isAlphanum = d.run := by
  rw [text, List.takeWhile_append_of_pos d.run_alphanum, Text.takeWhile_eq_nil d.head?_after_run, List.append_nil]

theorem split_dropWhile_text (d : Descriptor) :
    split (d.text.dropWhile Char.isAlphanum) = (d.junk, d.segments) := by
  rw [text, List.dropWhile_append_of_pos d.run_alphanum, Text.dropWhile_eq_self d.head?_after_run,
    split_plain_append d.junk_plain, split_written d.segments_plain, List.append_nil]

theorem ofText_text (d : Descriptor) : ofText d.text = d := by
  ext1
  · exact d.takeWhile_text
  · exact congrArg Prod.fst d.split_dropWhile_text
  · exact congrArg Prod.snd d.split_dropWhile_text

end Descriptor

section Reading

theorem behind_append (m : Mark) (parts parts' : List (Mark × List Char)) :
    behind m (parts ++ parts') = behind m parts ++ behind m parts' := by
  rw [behind, behind, behind, ← List.map_append, ← List.filter_append]

theorem addPart_eq (w : Wrapper) (p : Mark × List Char) :
    w.addPart p = { w with id := w.id.or (behind .hash [p]).head?, classes := w.classes ++ behind .dot [p] } := by
  obtain ⟨m, text⟩ := p
  cases text with
  | nil => simp [addPart, behind]
  | cons c rest =>
      cases m with
      | hash =>
          obtain ⟨tag, id, classes⟩ := w
          cases id <;> simp [addPart, behind]
      | dot => simp [addPart, behind]

theorem foldl_addPart (parts : List (Mark × List Char)) (w : Wrapper) :
    parts.foldl addPart w
      = { w with id := w.id.or (behind .hash parts).head?, classes := w.classes ++ behind .dot parts } := by
  induction parts generalizing w with
  | nil => simp [behind]
  | cons p rest ih =>
      have parts : p :: rest = [p] ++ rest := rfl
      rw [List.foldl_cons, ih, addPart_eq, parts, behind_append .hash [p] rest, behind_append .dot [p] rest,
        List.head?_append, Option.or_assoc, List.append_assoc]

theorem tagOfRun_run (d : Descriptor) : tagOfRun d.run = d.tag := by
  rw [Descriptor.tag]
  cases d.run with
  | nil => rfl
  | cons c rest => simp [tagOfRun]

theorem ofTrimmed_text (d : Descriptor) : ofTrimmed d.text = d.wrapper := by
  rw [ofTrimmed, d.takeWhile_text, d.split_dropWhile_text, tagOfRun_run, foldl_addPart]
  simp [Descriptor.wrapper]

theorem ofTrimmed_bare : ∀ tag ∈ bareTags, ofTrimmed tag.toList = { tag } := by decide

theorem parse_eq (text : String) : parse text = ofTrimmed (Text.trim text.toList) := by
  rw [parse]
  split
  · rename_i blank
    rw [List.isEmpty_iff.1 blank]
    rfl
  · split
    · rename_i bare
      rw [← ofTrimmed_bare _ bare, String.toList_ofList]
    · rfl

end Reading

def IsPart (text : String) : Prop := text ≠ "" ∧ Plain text.toList

structure WellFormed (w : Wrapper) : Prop where
  tag_letter : ∃ c rest, w.tag.toList = c :: rest ∧ c.isAlpha = true
  tag_alphanum : ∀ c ∈ w.tag.toList, c.isAlphanum = true
  id_part : ∀ id, w.id = some id → IsPart id
  classes_part : ∀ text ∈ w.classes, IsPart text

theorem exists_of_mem_behind {text : String} (h : text ∈ behind m parts) :
    ∃ p ∈ parts, p.2 ≠ [] ∧ text.toList = p.2 := by
  obtain ⟨p, hp, rfl⟩ := List.mem_map.1 h
  obtain ⟨listed, chosen⟩ := List.mem_filter.1 hp
  exact ⟨p, listed, (of_decide_eq_true chosen).2, String.toList_ofList⟩

theorem isPart_of_mem_behind (h : ∀ p ∈ parts, Plain p.2) : ∀ text ∈ behind m parts, IsPart text := by
  intro text hm
  obtain ⟨p, listed, filled, hp⟩ := exists_of_mem_behind hm
  refine ⟨?_, hp ▸ h p listed⟩
  rintro rfl
  exact filled hp.symm

theorem wellFormed_wrapper (d : Descriptor) : d.wrapper.WellFormed := by
  have id_part : ∀ id, (behind .hash d.segments).head? = some id → IsPart id := fun id h =>
    isPart_of_mem_behind d.segments_plain id (List.mem_of_head? h)
  have classes_part := isPart_of_mem_behind (m := .dot) d.segments_plain
  by_cases letter : d.run.head?.any Char.isAlpha
  · have tag : d.wrapper.tag.toList = d.run := by simp [Descriptor.wrapper, Descriptor.tag, letter]
    obtain ⟨c, first, alpha⟩ := (Option.any_eq_true _ _).1 letter
    obtain ⟨rest, run⟩ := List.head?_eq_some_iff.1 first
    exact ⟨⟨c, rest, tag.trans run, alpha⟩, tag ▸ d.run_alphanum, id_part, classes_part⟩
  · have tag : d.wrapper.tag = defaultTag := if_neg letter
    have letters : ∀ c ∈ defaultTag.toList, c.isAlphanum = true := List.all_eq_true.1 (by decide)
    exact ⟨tag ▸ ⟨'d', ['i', 'v'], rfl, rfl⟩, tag ▸ letters, id_part, classes_part⟩

theorem parse_eq_wrapper (text : String) :
    parse text = (Descriptor.ofText (Text.trim text.toList)).wrapper := by
  rw [parse_eq, ← ofTrimmed_text, Descriptor.text_ofText]

theorem wellFormed_parse (text : String) : (parse text).WellFormed := by
  rw [parse_eq_wrapper]
  exact wellFormed_wrapper _

theorem parse_exact (text : String) :
    (∃ d : Descriptor, Text.Trims text.toList d.text ∧ (∀ e : Descriptor, Text.Trims text.toList e.text → e = d) ∧
      ofText? (some text) = d.wrapper) ∧
    ofText? (some text) = ofTrimmed (Text.trim text.toList) ∧
    (ofText? (some text)).WellFormed ∧
    ((∀ c ∈ text.toList, Text.isBlank c = true) → ofText? (some text) = { tag := "div" }) ∧
    ofText? none = { tag := "div" } := by
  refine ⟨⟨Descriptor.ofText (Text.trim text.toList), ?_, fun e he => ?_, parse_eq_wrapper text⟩, parse_eq text,
    wellFormed_parse text, fun blank => ?_, rfl⟩
  · rw [Descriptor.text_ofText]
    exact Text.trims_trim text.toList
  · rw [he.trim_eq, Descriptor.ofText_text]
  · rw [ofText?, parse_eq, Text.trim_eq_nil_of_blank blank]
    rfl

theorem parse_exact_oddCard :
    (∀ c ∈ "\t ".toList, Text.isBlank c = true) ∧
    ofText? (some "\t ") = { tag := "div" } ∧
    ofText? (some "\u2003h1-x#.card..wide é#top#rest ")
      = { tag := "h1", id := some "top", classes := ["card", "wide é"] } := by
  have blank : ∀ c ∈ "\t ".toList, Text.isBlank c = true := List.all_eq_true.1 (by decide)
  obtain ⟨-, -, -, plain, -⟩ := parse_exact "\t "
  obtain ⟨-, general, -⟩ := parse_exact "\u2003h1-x#.card..wide é#top#rest "
  exact ⟨blank, plain blank, general.trans (by decide)⟩

end Storefront.Wrapper
