import Storefront.Event.Trigger
import Storefront.Proofs.Url.Navigable

namespace Storefront.Dispatcher

variable {η : Type} {d : Dispatcher} {e : Event} {scope : Scope} {table : HandlerTable η} {hook : η}

theorem describe_navigate (he : e.action = .navigate) :
    d.describe e scope = .ok
      { action := .navigate, target := .text (d.resolveTarget e.target scope), value := e.value } := by
  simp only [describe, he]

theorem mem_fire_located {t : Trigger η} {s : String} (h : Call.located hook s ∈ t.fire) :
    t.effect = .location hook ∧ s = t.invocation.target.display := by
  unfold Trigger.fire at h
  split at h
  · simp at h
  · rename_i called heffect
    obtain ⟨rfl, rfl⟩ : hook = called ∧ s = _ := by simpa using h
    exact ⟨heffect, rfl⟩
  · simp at h

section Reader

variable [UrlReader]

theorem effectOf_eq_location {i : Invocation} (h : effectOf table i = .location hook) :
    i.action = .navigate ∧ table.location = some hook ∧ i.target.asText?.any isNavigable = true := by
  unfold effectOf at h
  split at h
  · cases h
  · split at h
    · rename_i location ha hlocation
      split at h
      · rename_i navigable
        cases h
        exact ⟨ha, hlocation, navigable⟩
      · cases h
    · cases h

theorem effectOf_navigate (hl : table.location = some hook) (hn : table.get? .navigate = none)
    {target : String} {value : Option Json} (ht : isNavigable target = true) :
    effectOf table { action := .navigate, target := .text target, value } = .location hook := by
  simp only [effectOf, hn, hl, Target.asText?, Option.any_some, ht, if_true]

theorem located_inversion {t : Trigger η} (ht : d.tryBuild e scope table = .ok t) {s : String}
    (hs : Call.located hook s ∈ t.fire) :
    e.action = .navigate ∧ table.location = some hook ∧ s = d.resolveTarget e.target scope ∧
      isNavigable s = true := by
  obtain ⟨heffect, rfl⟩ := mem_fire_located hs
  cases hi : d.describe e scope with
  | error g => simp [tryBuild, hi, Except.map] at ht
  | ok i =>
      obtain rfl : { invocation := i, effect := effectOf table i } = t := by
        simpa [tryBuild, hi, Except.map] using ht
      obtain ⟨hnavigate, hlocation, hnavigable⟩ := effectOf_eq_location heffect
      have he : e.action = .navigate := (describe_action hi).symm.trans hnavigate
      have htarget : i = { action := .navigate, target := .text (d.resolveTarget e.target scope),
                           value := e.value } := by
        rw [describe_navigate he] at hi
        cases hi
        rfl
      subst htarget
      exact ⟨he, hlocation, rfl, by simpa [Target.asText?, Target.display] using hnavigable⟩

theorem tryBuild_navigate (hl : table.location = some hook) (hn : table.get? .navigate = none)
    (he : e.action = .navigate) (ht : isNavigable (d.resolveTarget e.target scope) = true) :
    ∃ t, d.tryBuild e scope table = .ok t ∧
      t.fire = [.located hook (d.resolveTarget e.target scope)] := by
  refine ⟨_, by rw [tryBuild, describe_navigate he, Except.map], ?_⟩
  simp only [Trigger.fire, effectOf_navigate hl hn ht, Target.display]

theorem located_exact (h : UrlReader.ReadsSchemes) (d : Dispatcher) (e : Event) (scope : Scope)
    (table : HandlerTable η) (hook : η) (hl : table.location = some hook) (hn : table.get? .navigate = none) :
    (∀ t, d.tryBuild e scope table = .ok t → ∀ called s, Call.located called s ∈ t.fire →
      called = hook ∧ e.action = .navigate ∧ s = d.resolveTarget e.target scope ∧
      (UrlReader.OnWeb s ∨ StaysOnSite s.toList ↔ ¬ HidesSlash s.toList)) ∧
    (e.action = .navigate →
      UrlReader.OnWeb (d.resolveTarget e.target scope) ∨
        StaysOnSite (d.resolveTarget e.target scope).toList →
      ∃ t, d.tryBuild e scope table = .ok t ∧
        t.fire = [.located hook (d.resolveTarget e.target scope)]) := by
  constructor
  · intro t ht called s hs
    obtain ⟨he, hcalled, htarget, hnavigable⟩ := located_inversion ht hs
    have same : called = hook := Option.some.inj (hcalled.symm.trans hl)
    refine ⟨same, he, htarget, ?_⟩
    constructor
    · rintro (web | stays) hides
      · obtain ⟨gap, c, rest, heq, -⟩ := hides
        exact not_onWeb_of_slash h heq web
      · exact not_staysOnSite_of_hidesSlash hides stays
    · intro unhidden
      rcases (isNavigable_iff h s).1 hnavigable with web | stays | hides
      · exact .inl web
      · exact .inr stays
      · exact absurd hides unhidden
  · intro he safe
    have navigable : isNavigable (d.resolveTarget e.target scope) = true := by
      rw [isNavigable_iff h]
      rcases safe with web | stays
      · exact .inl web
      · exact .inr (.inl stays)
    exact tryBuild_navigate hl hn he navigable

end Reader

def hookOnly : HandlerTable String := { location := some "assign" }

def productLink : Event := { action := .navigate, target := "item.url" }

def makerLink : Event := { action := .navigate, target := "item.maker" }

def productScope : Scope :=
  (Scope.root (.object [])).push
    [("item", .object [("url", .string "/p/1"), ("maker", .string "https://maker.example/")])]

theorem located_exact_productScope :
    UrlReader.ReadsSchemes ∧ hookOnly.location = some "assign" ∧ hookOnly.get? .navigate = none ∧
    (productLink.action = .navigate ∧ StaysOnSite "/p/1".toList ∧
      ∃ t, ({} : Dispatcher).tryBuild productLink productScope hookOnly = .ok t ∧
        t.fire = [.located "assign" "/p/1"]) ∧
    (makerLink.action = .navigate ∧ UrlReader.OnWeb "https://maker.example/" ∧
      ∃ t, ({} : Dispatcher).tryBuild makerLink productScope hookOnly = .ok t ∧
        t.fire = [.located "assign" "https://maker.example/"]) := by
  have reads : UrlReader.ReadsSchemes := Url.readsSchemes_reader
  have stays : StaysOnSite "/p/1".toList := ⟨rfl, by decide, by decide⟩
  have web : UrlReader.OnWeb "https://maker.example/" :=
    (isOnWeb_iff _).1 (by decide +kernel)
  have path : ({} : Dispatcher).resolveTarget productLink.target productScope = "/p/1" := by decide
  have url : ({} : Dispatcher).resolveTarget makerLink.target productScope = "https://maker.example/" := by
    decide
  obtain ⟨-, toPath⟩ := located_exact reads {} productLink productScope hookOnly "assign" rfl rfl
  obtain ⟨-, toUrl⟩ := located_exact reads {} makerLink productScope hookOnly "assign" rfl rfl
  rw [path] at toPath
  rw [url] at toUrl
  exact ⟨reads, rfl, rfl, ⟨rfl, stays, toPath rfl (.inr stays)⟩, ⟨rfl, web, toUrl rfl (.inl web)⟩⟩

theorem located_hidden_slash :
    (∀ [UrlReader], ∃ t, ({} : Dispatcher).tryBuild { action := .navigate, target := "/\t/evil.example" }
        (Scope.root (.object [])) hookOnly = .ok t ∧
      t.fire = [.located "assign" "/\t/evil.example"]) ∧
    (∀ [UrlReader], UrlReader.ReadsSchemes → ¬ UrlReader.OnWeb "/\t/evil.example") ∧
    ¬ StaysOnSite "/\t/evil.example".toList := by
  have hides : HidesSlash "/\t/evil.example".toList :=
    ⟨['\t'], '/', "evil.example".toList, rfl, by decide, List.all_eq_true.1 rfl, .inl rfl⟩
  exact ⟨⟨_, rfl, rfl⟩, fun reads => not_onWeb_of_slash reads rfl, not_staysOnSite_of_hidesSlash hides⟩

end Storefront.Dispatcher
