import Storefront.Command.Extras
import Storefront.Proofs.Dictionary

namespace Storefront.Command

def Names (argument name : String) : Prop :=
  argument = "--extra-" ++ name ∨ argument = "--extras-" ++ name

/-- Ordinary arguments with extra ones put in between. An extra argument is followed by its value, which is not
hyphenated, or it stands alone, at the end or before a hyphenated argument. -/
inductive Interspersed : List String → List (String × String) → List String → Prop where
  | nil : Interspersed [] [] []
  | ordinary {ordinary extras arguments} (argument : String) : Interspersed ordinary extras arguments →
      Interspersed (argument :: ordinary) extras (argument :: arguments)
  | valued {ordinary extras arguments argument name value} : Names argument name → isHyphenated value = false →
      Interspersed ordinary extras arguments →
      Interspersed ordinary ((name, value) :: extras) (argument :: value :: arguments)
  | lone {ordinary extras arguments argument name} : Names argument name →
      (∀ next ∈ arguments.head?, isHyphenated next = true) → Interspersed ordinary extras arguments →
      Interspersed ordinary ((name, "true") :: extras) (argument :: arguments)

variable {argument name value : String} {ordinary arguments : List String} {extras : List (String × String)}

theorem spellings_apart (name name' : String) : "--extra-" ++ name ≠ "--extras-" ++ name' := by
  intro same
  have same : ("--extra-" ++ name).toList = ("--extras-" ++ name').toList := congrArg _ same
  simp at same

theorem extraName?_eq_some_iff : extraName? argument = some name ↔ Names argument name := by
  have spelled (start name : String) :
      (Text.after? start.toList argument.toList).map String.ofList = some name ↔ argument = start ++ name := by
    have texts : argument = start ++ name ↔ argument.toList = start.toList ++ name.toList := by
      rw [← String.toList_append, String.toList_inj]
    rw [texts]
    simp only [Option.map_eq_some_iff, Text.after?_eq_some_iff]
    constructor
    · rintro ⟨rest, text, rfl⟩
      rw [text, String.toList_ofList]
    · exact fun text => ⟨name.toList, text, String.ofList_toList⟩
  rw [extraName?, Option.map_or, Option.or_eq_some_iff, spelled, spelled, Names]
  constructor
  · exact Or.imp_right And.right
  · apply Or.imp_right
    intro plural
    refine ⟨Option.eq_none_iff_forall_ne_some.2 fun name' found => ?_, plural⟩
    exact spellings_apart name' name (((spelled _ _).1 found).symm.trans plural)

theorem extraName?_eq_none_iff : extraName? argument = none ↔ ∀ name, ¬ Names argument name := by
  simp [Option.eq_none_iff_forall_ne_some, extraName?_eq_some_iff]

theorem separate_valued (h : Names argument name) (plain : isHyphenated value = false) (arguments : List String) :
    separate (argument :: value :: arguments)
      = ((separate arguments).1, (name, value) :: (separate arguments).2) := by
  simp [separate, extraName?_eq_some_iff.2 h, plain]

theorem separate_lone (h : Names argument name) (alone : ∀ next ∈ arguments.head?, isHyphenated next = true) :
    separate (argument :: arguments) = ((separate arguments).1, (name, "true") :: (separate arguments).2) := by
  cases arguments with
  | nil => simp [separate, extraName?_eq_some_iff.2 h]
  | cons next rest =>
      have hyphenated : isHyphenated next = true := alone next rfl
      rw [separate, extraName?_eq_some_iff.2 h]
      simp only [hyphenated, if_true]

theorem separate_ordinary_cons (h : ∀ name, ¬ Names argument name) (arguments : List String) :
    separate (argument :: arguments) = (argument :: (separate arguments).1, (separate arguments).2) := by
  simp [separate, extraName?_eq_none_iff.2 h]

theorem separate_induction {P : List String → Prop} (nil : P [])
    (ordinary : ∀ argument rest, (∀ name, ¬ Names argument name) → P rest → P (argument :: rest))
    (valued : ∀ argument name value rest, Names argument name → isHyphenated value = false → P rest →
      P (argument :: value :: rest))
    (lone : ∀ argument name rest, Names argument name → (∀ next ∈ rest.head?, isHyphenated next = true) → P rest →
      P (argument :: rest)) (arguments : List String) : P arguments :=
  match arguments with
  | [] => nil
  | argument :: rest => by
      have below (shorter : List String) (h : shorter.length ≤ rest.length) : P shorter :=
        separate_induction nil ordinary valued lone shorter
      cases named : extraName? argument with
      | none => exact ordinary argument rest (extraName?_eq_none_iff.1 named) (below rest (Nat.le_refl _))
      | some name =>
          have named := extraName?_eq_some_iff.1 named
          cases rest with
          | nil => exact lone argument name [] named nofun nil
          | cons value further =>
              cases hyphen : isHyphenated value with
              | true => exact lone argument name _ named (by simpa using hyphen) (below _ (Nat.le_refl _))
              | false => exact valued argument name value further named hyphen (below further (Nat.le_succ _))
termination_by arguments.length

theorem interspersed_separate (arguments : List String) :
    Interspersed (separate arguments).1 (separate arguments).2 arguments ∧
      ∀ a ∈ (separate arguments).1, ∀ name, ¬ Names a name := by
  induction arguments using separate_induction with
  | nil => exact ⟨.nil, fun a ha => absurd ha List.not_mem_nil⟩
  | ordinary argument rest plain ih =>
      rw [separate_ordinary_cons plain]
      exact ⟨.ordinary argument ih.1, List.forall_mem_cons.2 ⟨plain, ih.2⟩⟩
  | valued argument name value rest named plain ih =>
      rw [separate_valued named plain]
      exact ⟨.valued named plain ih.1, ih.2⟩
  | lone argument name rest named alone ih =>
      rw [separate_lone named alone]
      exact ⟨.lone named alone ih.1, ih.2⟩

theorem separate_eq_iff : separate arguments = (ordinary, extras) ↔
    Interspersed ordinary extras arguments ∧ ∀ a ∈ ordinary, ∀ name, ¬ Names a name := by
  constructor
  · intro h
    simpa [h] using interspersed_separate arguments
  · rintro ⟨interspersed, plain⟩
    induction interspersed with
    | nil => rfl
    | ordinary argument _ ih =>
        rw [List.forall_mem_cons] at plain
        rw [separate_ordinary_cons plain.1, ih plain.2]
    | valued named unhyphenated _ ih => rw [separate_valued named unhyphenated, ih plain]
    | lone named alone _ ih => rw [separate_lone named alone, ih plain]

theorem extras_separated (h : Interspersed ordinary extras arguments)
    (plain : ∀ a ∈ ordinary, ∀ name, ¬ Names a name) :
    (splitExtras arguments).1 = ordinary ∧
    (∀ name, name ∈ (splitExtras arguments).2.keys ↔ name ∈ extras.map Prod.fst) ∧
    (∀ before name value after, extras = before ++ (name, value) :: after → name ∉ after.map Prod.fst →
      (splitExtras arguments).2.get? name = some value) ∧
    (splitExtras arguments).2.keys.Nodup ∧
    splitExtras ordinary = (ordinary, []) := by
  have separated : splitExtras arguments = (ordinary, Dictionary.ofList extras) := by
    rw [splitExtras, separate_eq_iff.2 ⟨h, plain⟩]
  have alone : separate ordinary = (ordinary, []) :=
    separate_ordinary fun a ha => extraName?_eq_none_iff.2 (plain a ha)
  rw [separated]
  refine ⟨rfl, fun name => ?_, ?_, (Dictionary.sorted_ofList extras).nodup_keys, by rw [splitExtras, alone]; rfl⟩
  · have none : name ∉ Dictionary.keys ([] : Dictionary String) := List.not_mem_nil
    exact Dictionary.mem_keys_overlay.trans (or_iff_left none)
  · rintro before name value after rfl last
    have absent : Dictionary.get? name after.reverse = none := by
      apply Dictionary.get?_eq_none
      rwa [Dictionary.keys, List.map_reverse, List.mem_reverse]
    have looked := Dictionary.get?_overlay_reverse name [] (before ++ (name, value) :: after)
    rw [List.reverse_append, List.reverse_cons, List.append_assoc, Dictionary.get?_append, absent] at looked
    simpa [Dictionary.ofList, Dictionary.overlay, Dictionary.get?] using looked

def wordyCall : List String :=
  ["blocks", "--extra-depth", "--extras-depth", "3", "--data", "data.json", "--extra-depth", "2", "--extras-", "",
    "page.json", "--extras-wide"]

def plainCall : List String := ["blocks", "--data", "data.json", "page.json"]

theorem extras_separated_wordyCall :
    Interspersed plainCall [("depth", "true"), ("depth", "3"), ("depth", "2"), ("", ""), ("wide", "true")] wordyCall ∧
    (∀ a ∈ plainCall, ∀ name, ¬ Names a name) ∧
    (splitExtras wordyCall).1 = plainCall ∧
    (splitExtras wordyCall).2.get? "depth" = some "2" ∧
    (splitExtras wordyCall).2.get? "wide" = some "true" ∧
    "data" ∉ (splitExtras wordyCall).2.keys ∧
    splitExtras plainCall = (plainCall, []) := by
  have h : Interspersed plainCall
      [("depth", "true"), ("depth", "3"), ("depth", "2"), ("", ""), ("wide", "true")] wordyCall :=
    .ordinary _ <| .lone (.inl (by decide)) (by decide) <| .valued (.inr (by decide)) (by decide) <| .ordinary _ <|
      .ordinary _ <| .valued (.inl (by decide)) (by decide) <| .valued (.inr (by decide)) (by decide) <| .ordinary _ <|
      .lone (.inr (by decide)) (by decide) .nil
  have plain : ∀ a ∈ plainCall, ∀ name, ¬ Names a name := by
    have none : ∀ a ∈ plainCall, extraName? a = none := by decide
    exact fun a ha => extraName?_eq_none_iff.1 (none a ha)
  obtain ⟨ordinary, names, values, -, again⟩ := extras_separated h plain
  refine ⟨h, plain, ordinary, ?_, ?_, ?_, again⟩
  · exact values [("depth", "true"), ("depth", "3")] "depth" "2" [("", ""), ("wide", "true")] rfl (by decide)
  · exact values [("depth", "true"), ("depth", "3"), ("depth", "2"), ("", "")] "wide" "true" [] rfl (by decide)
  · exact fun present => absurd ((names "data").1 present) (by decide)

end Storefront.Command
