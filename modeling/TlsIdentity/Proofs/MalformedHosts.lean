import TlsIdentity.Proofs.StoredNames
import TlsIdentity.Proofs.WrittenPatterns

/-!
# Hosts with an empty label

No text with an empty label can be registered, but look-up takes every text for a host. What is stored has no
empty label, so a host that has one is no single host of the table; and a level that covers it has for its parent
all labels after the first, so the empty label is the first one and the only one. This is the one case in which
such a host is presented more than the fallback: a level is found for its parent with a dot in front, because
`covers` does not look at what stands before the first dot. Everywhere else only the fallback is left.
-/

namespace TlsIdentity

namespace HostName

/-- A dot in front of a name is an empty label in front of its labels. -/
theorem labels_dot_append (parent : String) : labels ("." ++ parent) = [] :: labels parent := by
  refine labels_of_toList_eq List.not_mem_nil ?_
  rw [String.toList_append]
  rfl

end HostName

namespace HostPattern

open HostName

variable {text name : String} {pattern : HostPattern}

theorem covers_dot_append (parent : String) : (HostPattern.below parent).covers ("." ++ parent) = true :=
  covers_below_iff.mpr (afterFirstDot?_eq_some_iff.mpr ⟨[], labels_dot_append parent⟩)

/-- **What covers a name with an empty label** is the pattern of every host, or the level of which the name is
    the parent with a dot in front. -/
theorem eq_any_or_below_of_covers (h : ofText? text = some pattern) (hempty : [] ∈ labels name)
    (hcovers : pattern.covers name = true) :
    pattern = .any ∨ ∃ parent, pattern = .below parent ∧ name = "." ++ parent := by
  cases pattern with
  | any => exact .inl rfl
  | exact own =>
    obtain rfl := covers_exact_iff.mp hcovers
    exact absurd hempty (isStored_of_exact h).nil_notMem
  | below parent =>
    obtain ⟨label, hlabels⟩ := afterFirstDot?_eq_some_iff.mp (covers_below_iff.mp hcovers)
    -- the empty label is not one of the parent's, so it is the one before them
    rw [hlabels] at hempty
    rcases List.mem_cons.mp hempty with rfl | hparent
    · rw [← labels_dot_append, labels_inj] at hlabels
      exact .inr ⟨parent, rfl, hlabels⟩
    · exact absurd hparent (isStored_of_below h).nil_notMem

end HostPattern

/-! ## Look-up in a history -/

namespace History

open HostPattern

variable {α : Type} {history : History α} {host parent : String}

/-- A host that no narrower pattern covers is presented the fallback. -/
theorem resolve?_eq_lastFor_any
    (h : ∀ pattern ∈ history.map (·.1), pattern.covers (HostName.canonical host) = true → pattern = .any) :
    history.resolve? host = lastFor history .any := by
  have hexact : lastFor history (.exact (HostName.canonical host)) = none := by
    refine lastFor_eq_none_iff.mpr fun hmem => ?_
    cases h _ hmem (covers_exact_iff.mpr rfl)
  have hbelow : ((afterFirstDot? (HostName.canonical host)).bind fun parent =>
      lastFor history (.below parent)) = none := by
    refine Option.bind_eq_none_iff.mpr fun parent hafter => lastFor_eq_none_iff.mpr fun hmem => ?_
    cases h _ hmem (covers_below_iff.mpr hafter)
  rw [resolve?_eq, hexact, hbelow]
  rfl

/-- A host that is no single host of the history is presented what its level was registered with. -/
theorem resolve?_eq_lastFor_below (hmem : .below parent ∈ history.map (·.1))
    (hcovers : (HostPattern.below parent).covers (HostName.canonical host) = true)
    (hexact : .exact (HostName.canonical host) ∉ history.map (·.1)) :
    history.resolve? host = lastFor history (.below parent) := by
  obtain ⟨identity, hidentity⟩ := Option.isSome_iff_exists.mp (isSome_lastFor_iff.mpr hmem)
  rw [resolve?_eq, lastFor_eq_none_iff.mpr hexact, covers_below_iff.mp hcovers, Option.bind_some, hidentity]
  rfl

end History

/-! ## Profiles -/

namespace Profile.BuiltBy

variable {profile : Profile} {engine : Engine} {calls : List ClientCall}

theorem value_find_eq (h : profile.BuiltBy engine calls) (host : String) :
    (profile.find host).value = (registeredBy calls).resolve? host := by
  rw [value_find, h.identities_eq, IdentityTable.find?_ofHistory]

theorem identityOf?_eq (h : profile.BuiltBy engine calls) (pattern : HostPattern) :
    profile.identities.identityOf? pattern = History.lastFor (registeredBy calls) pattern := by
  rw [h.identities_eq, (IdentityTable.records_ofHistory _).identityOf?_eq]

end Profile.BuiltBy

/-- **A host with an empty label is presented the fallback, unless it is the parent of a level with a dot in
    front.** For every profile that calls and applied options make, on a draft of either kind, and every host
    whose canonical form has an empty label:

    * of the listed patterns none covers it but the fallback and the level of which it is the parent with a dot
      in front, so never a single host;
    * if no such level is listed, it is presented the fallback, or nothing if there is none; so it is if a label
      after the first is empty;
    * if such a level is listed, it is presented what that level is registered with. -/
theorem empty_label_reaches_level_only_in_front {engine : Engine} {role : Role} {actions : List DraftAction}
    {profile : Profile}
    (hbuild : ((AnyDraft.ofActions engine role actions).build engine).run.value = .ok profile)
    {host : String} (hempty : [] ∈ HostName.labels (HostName.canonical host)) :
    (∀ pattern ∈ profile.identities.patterns, pattern.covers (HostName.canonical host) = true →
      pattern = .any ∨ ∃ parent, pattern = .below parent ∧ HostName.canonical host = "." ++ parent) ∧
    ((∀ parent, .below parent ∈ profile.identities.patterns → HostName.canonical host ≠ "." ++ parent) →
      (profile.find host).value = profile.identities.fallback) ∧
    ([] ∈ (HostName.labels (HostName.canonical host)).tail →
      (profile.find host).value = profile.identities.fallback) ∧
    ∀ parent, .below parent ∈ profile.identities.patterns → HostName.canonical host = "." ++ parent →
      (profile.find host).value = profile.identities.identityOf? (.below parent) := by
  obtain ⟨calls, hbuilt⟩ := AnyDraft.exists_builtBy hbuild
  have honly : ∀ pattern ∈ profile.identities.patterns, pattern.covers (HostName.canonical host) = true →
      pattern = .any ∨ ∃ parent, pattern = .below parent ∧ HostName.canonical host = "." ++ parent := by
    intro pattern hpattern hcovers
    obtain ⟨text, htext⟩ := hbuilt.exists_text_of_mem_patterns hpattern
    exact HostPattern.eq_any_or_below_of_covers htext hempty hcovers
  have hfallback : (∀ parent, .below parent ∈ profile.identities.patterns →
      HostName.canonical host ≠ "." ++ parent) → (profile.find host).value = profile.identities.fallback := by
    intro hnone
    have hlast : profile.identities.fallback = History.lastFor (registeredBy calls) .any :=
      hbuilt.identityOf?_eq .any
    rw [hbuilt.value_find_eq, hlast]
    refine History.resolve?_eq_lastFor_any fun pattern hpattern hcovers => ?_
    have hlisted := hbuilt.mem_patterns_iff.mpr hpattern
    rcases honly pattern hlisted hcovers with hany | ⟨parent, rfl, hhost⟩
    · exact hany
    · exact absurd hhost (hnone parent hlisted)
  refine ⟨honly, hfallback, ?_, ?_⟩
  · intro htail
    refine hfallback fun parent hparent hhost => ?_
    -- the empty label would be one of the parent's
    obtain ⟨text, htext⟩ := hbuilt.exists_text_of_mem_patterns hparent
    rw [hhost, HostName.labels_dot_append, List.tail_cons] at htail
    exact (HostPattern.isStored_of_below htext).nil_notMem htail
  · intro parent hparent hhost
    have hcovers : (HostPattern.below parent).covers (HostName.canonical host) = true := by
      rw [hhost]
      exact HostPattern.covers_dot_append parent
    have hexact : .exact (HostName.canonical host) ∉ (registeredBy calls).map (·.1) := by
      intro hmem
      have hown := honly _ (hbuilt.mem_patterns_iff.mpr hmem) (HostPattern.covers_exact_iff.mpr rfl)
      rcases hown with hany | ⟨_, hlevel, _⟩
      · cases hany
      · cases hlevel
    rw [hbuilt.value_find_eq, hbuilt.identityOf?_eq]
    exact History.resolve?_eq_lastFor_below (hbuilt.mem_patterns_iff.mp hparent) hcovers hexact

/-- Beside a level, a single host below it and the fallback, a host with an empty label in the middle, in capitals
    and with a last dot, is presented the fallback. The level's parent with a dot in front is presented what the
    level was registered with last. -/
theorem inner_empty_label_presented_fallback :
    let engine := Catalogue.engine []
    let own : Credential := ⟨none, [⟨[1]⟩], ⟨"key", some .ecdsa⟩⟩
    let other : Credential := ⟨none, [⟨[2]⟩], ⟨"other", some .rsa⟩⟩
    let actions : List DraftAction := [.call (.common (.set "*.A.com." other)),
      .call (.common (.set "x.a.com" own)), .call (.common (.setFallback other)),
      .call (.common (.set "*.a.com" own))]
    ∃ profile, ((AnyDraft.ofActions engine .client actions).build engine).run.value = .ok profile ∧
      [] ∈ HostName.labels (HostName.canonical "X..A.com.") ∧ (profile.find "X..A.com.").value = some other ∧
      [] ∈ HostName.labels (HostName.canonical ".A.com") ∧ (profile.find ".A.com").value = some own := by
  intro engine own other actions
  have htrusted : (AnyDraft.ofActions engine .client actions).common.trusted = [] := by decide +kernel
  have hbuild := AnyDraft.build_of_trusted_eq_nil htrusted engine
  have hfallback : (AnyDraft.ofActions engine .client actions).common.identities.fallback = some other := by
    decide +kernel
  have hlisted : .below "a.com" ∈ (AnyDraft.ofActions engine .client actions).common.identities.patterns := by
    decide +kernel
  have hlevel : (AnyDraft.ofActions engine .client actions).common.identities.identityOf?
      (.below "a.com") = some own := by
    decide +kernel
  have hinner : [] ∈ HostName.labels (HostName.canonical "X..A.com.") := by decide +kernel
  have hfront : [] ∈ HostName.labels (HostName.canonical ".A.com") := by decide +kernel
  obtain ⟨_, _, hafter, _⟩ := empty_label_reaches_level_only_in_front hbuild hinner
  obtain ⟨_, _, _, hreached⟩ := empty_label_reaches_level_only_in_front hbuild hfront
  refine ⟨_, hbuild, hinner, ?_, hfront, ?_⟩
  · exact (hafter (by decide +kernel)).trans hfallback
  · exact (hreached "a.com" hlisted (by decide +kernel)).trans hlevel

/-- An empty label in front does not keep a host from a level: `.a.com` is presented what `*.a.com` is registered
    with, and not the fallback. -/
theorem leading_dot_finds_level :
    let engine := Catalogue.engine []
    let own : Credential := ⟨none, [⟨[1]⟩], ⟨"key", some .ecdsa⟩⟩
    let other : Credential := ⟨none, [⟨[2]⟩], ⟨"other", some .rsa⟩⟩
    let actions : List DraftAction := [.call (.common (.set "*.a.com" own)), .call (.common (.setFallback other))]
    ∃ profile, ((AnyDraft.ofActions engine .server actions).build engine).run.value = .ok profile ∧
      [] ∈ HostName.labels (HostName.canonical ".a.com") ∧
      (profile.find ".a.com").value = profile.identities.identityOf? (.below "a.com") ∧
      (profile.find ".a.com").value ≠ profile.identities.fallback ∧ (profile.find ".a.com").value ≠ none := by
  intro engine own other actions
  have htrusted : (AnyDraft.ofActions engine .server actions).common.trusted = [] := by decide +kernel
  have hbuild := AnyDraft.build_of_trusted_eq_nil htrusted engine
  have hfound : (((AnyDraft.ofActions engine .server actions).frozen engine).find ".a.com").value = some own := by
    rw [Profile.value_find]
    decide +kernel
  have hlevel : (AnyDraft.ofActions engine .server actions).common.identities.identityOf?
      (.below "a.com") = some own := by
    decide +kernel
  have hfallback : (AnyDraft.ofActions engine .server actions).common.identities.fallback = some other := by
    decide +kernel
  refine ⟨_, hbuild, by decide +kernel, hfound.trans hlevel.symm, ?_, ?_⟩
  · intro hsame
    have hequal : some own = some other := hfound.symm.trans (hsame.trans hfallback)
    exact absurd hequal (by decide +kernel)
  · intro hnone
    cases hfound.symm.trans hnone

end TlsIdentity
