import TlsIdentity.Catalogue
import TlsIdentity.Proofs.AppliedOptions
import TlsIdentity.Proofs.PatternGrammar
import TlsIdentity.Proofs.Spellings
import TlsIdentity.Proofs.TableListing

/-!
# Patterns read and written

A pattern is written as the canonical form of the text that it was read from: reading takes the star of a level
away and writing puts it back (`toText_eq_canonical`). What was written is read as the same pattern again. This
does not hold of canonical forms as such, since `a..` becomes `a.` and then `a`; it rests on the grammar, by which
no label of an accepted text is empty and so its canonical form has no final dot left. So a pattern and the
canonical form of its texts determine each other, and a listed pattern, as it is written, names its own entry.
-/

namespace TlsIdentity

namespace HostPattern

open HostName

variable {text other : String} {pattern otherPattern : HostPattern}

/-- **A pattern is written as the canonical form of its text.** -/
theorem toText_eq_canonical (h : ofText? text = some pattern) : pattern.toText = canonical text := by
  cases pattern with
  | any => exact (ofText?_eq_some_any_iff.mp h).symm
  | exact name => exact (ofText?_eq_some_exact_iff.mp h).1.symm
  | below parent => exact (ofText?_eq_some_below_iff.mp h).1.symm

/-- No label of an accepted text is empty, so no dot is left to be dropped. -/
theorem canonical_toText (h : ofText? text = some pattern) : canonical pattern.toText = pattern.toText := by
  have hlabels := isPatternLabels_of_ofText? h
  have hdot : (canonical text).toList.getLast? ≠ some '.' :=
    fun hlast => hlabels.nil_notMem (nil_mem_splitOn_of_getLast? hlast)
  rw [toText_eq_canonical h]
  exact canonical_canonical hdot

/-- **What is written is read as the same pattern.** -/
theorem ofText?_toText (h : ofText? text = some pattern) : ofText? pattern.toText = some pattern := by
  have hcanonical : canonical pattern.toText = canonical text := by
    rw [canonical_toText h, toText_eq_canonical h]
  rw [ofText?_congr (canonical_eq_iff.mp hcanonical), h]

/-- **Patterns are equal exactly if their texts have one canonical form.** -/
theorem eq_iff_canonical_eq (h : ofText? text = some pattern) (hother : ofText? other = some otherPattern) :
    pattern = otherPattern ↔ canonical text = canonical other := by
  constructor
  · rintro rfl
    rw [← toText_eq_canonical h, ← toText_eq_canonical hother]
  · intro hcanonical
    have hsame : ofText? text = ofText? other := ofText?_congr (canonical_eq_iff.mp hcanonical)
    rw [h, hother] at hsame
    exact Option.some.inj hsame

end HostPattern

/-! ## Registering what is listed -/

/-- A credential for a text that stands for a pattern is registered for the pattern, and all else stays. -/
theorem Draft.call_set {text : String} {pattern : HostPattern} (h : HostPattern.ofText text = .ok pattern)
    (draft : Draft) (credential : Credential) :
    draft.call (.set text credential) =
      .ok { draft with identities := draft.identities.insert pattern credential } := by
  rw [Draft.call, Draft.set, h]
  rfl

/-- The profile that is built after one more registration differs from the one before in this only. -/
theorem AnyDraft.exists_build_of_set {engine : Engine} {any : AnyDraft} {profile : Profile}
    (hbuild : (any.build engine).run.value = .ok profile) {text : String} {pattern : HostPattern}
    (htext : HostPattern.ofText text = .ok pattern) (credential : Credential) :
    ∃ next, any.call (.common (.set text credential)) = .ok next ∧
      (next.build engine).run.value =
        .ok { profile with identities := profile.identities.insert pattern credential } := by
  rw [build_eq_freeze, Draft.freeze_eq_ok_iff] at hbuild
  obtain ⟨htrusted, rfl⟩ := hbuild
  cases any with
  | server draft =>
    refine ⟨.server { draft with identities := draft.identities.insert pattern credential }, ?_, ?_⟩
    · rw [call_server_common, Draft.call_set htext]
      rfl
    · exact Draft.freeze_eq_ok_iff.mpr ⟨htrusted, rfl⟩
  | client client =>
    refine ⟨.client { client with common :=
      { client.common with identities := client.common.identities.insert pattern credential } }, ?_, ?_⟩
    · rw [call_client, ClientDraft.call_common, Draft.call_set htext]
      rfl
    · exact Draft.freeze_eq_ok_iff.mpr ⟨htrusted, rfl⟩

namespace Profile.BuiltBy

variable {profile : Profile} {engine : Engine} {calls : List ClientCall} {pattern : HostPattern}

/-- A profile lists what its run registered. -/
theorem mem_patterns_iff (h : profile.BuiltBy engine calls) :
    pattern ∈ profile.identities.patterns ↔ pattern ∈ (registeredBy calls).map (·.1) := by
  rw [h.identities_eq, (IdentityTable.records_ofHistory _).mem_patterns_iff]

/-- What a profile lists is what some text stands for. -/
theorem exists_text_of_mem_patterns (h : profile.BuiltBy engine calls)
    (hpattern : pattern ∈ profile.identities.patterns) : ∃ text, HostPattern.ofText? text = some pattern :=
  exists_text_of_mem_registeredBy (h.mem_patterns_iff.mp hpattern)

end Profile.BuiltBy

/-- **Reading and writing patterns undo each other, but for the spelling.**

    * A text that stands for a pattern is written back in canonical form; this form is its own canonical form,
      and it stands for the same pattern.
    * Two texts that stand for patterns stand for the same one exactly if they have one canonical form.
    * Let calls and applied options, on a draft of either kind, end in a profile, and let a pattern that the
      profile lists be registered once more, on the same draft, by the text in which it is written. This
      succeeds, and so does building the draft again. The new profile differs from the old one in one thing:
      the pattern has the new credential. It lists the same patterns in the same order, and every other one
      keeps its credential. -/
theorem patterns_written_and_read_back :
    (∀ text pattern, HostPattern.ofText text = .ok pattern →
      pattern.toText = HostName.canonical text ∧
      HostName.canonical pattern.toText = pattern.toText ∧
      HostPattern.ofText pattern.toText = .ok pattern) ∧
    (∀ text other pattern otherPattern, HostPattern.ofText text = .ok pattern →
      HostPattern.ofText other = .ok otherPattern →
      (pattern = otherPattern ↔ HostName.canonical text = HostName.canonical other)) ∧
    ∀ engine role actions profile,
      ((AnyDraft.ofActions engine role actions).build engine).run.value = .ok profile →
      ∀ pattern ∈ profile.identities.patterns, ∀ credential, ∃ next identities,
        (AnyDraft.ofActions engine role actions).call (.common (.set pattern.toText credential)) = .ok next ∧
        (next.build engine).run.value = .ok { profile with identities := identities } ∧
        identities.patterns = profile.identities.patterns ∧
        identities.identityOf? pattern = some credential ∧
        ∀ other, other ≠ pattern → identities.identityOf? other = profile.identities.identityOf? other := by
  simp only [HostPattern.ofText_eq_ok_iff]
  refine ⟨?_, ?_, ?_⟩
  · intro text pattern h
    exact ⟨HostPattern.toText_eq_canonical h, HostPattern.canonical_toText h, HostPattern.ofText?_toText h⟩
  · intro text other pattern otherPattern h hother
    exact HostPattern.eq_iff_canonical_eq h hother
  · intro engine role actions profile hbuild pattern hpattern credential
    obtain ⟨calls, hbuilt⟩ := AnyDraft.exists_builtBy hbuild
    obtain ⟨text, htext⟩ := hbuilt.exists_text_of_mem_patterns hpattern
    have hwritten : HostPattern.ofText pattern.toText = .ok pattern :=
      HostPattern.ofText_eq_ok_iff.mpr (HostPattern.ofText?_toText htext)
    obtain ⟨next, hcall, hnext⟩ := AnyDraft.exists_build_of_set hbuild hwritten credential
    refine ⟨next, _, hcall, hnext, IdentityTable.patterns_insert_of_mem hpattern, ?_, ?_⟩
    · rw [IdentityTable.identityOf?_insert, if_pos rfl]
    · intro other hother
      rw [IdentityTable.identityOf?_insert, if_neg hother]

/-- A level that is registered between a single host and the fallback is written `*.a.com`, and is given another
    credential under this text. -/
theorem level_overwritten_as_listed :
    let engine := Catalogue.engine []
    let own : Credential := ⟨none, [⟨[1]⟩], ⟨"key", some .ecdsa⟩⟩
    let other : Credential := ⟨none, [⟨[2]⟩], ⟨"other", some .rsa⟩⟩
    let actions : List DraftAction := [.call (.common (.set "a.com." other)),
      .call (.common (.set "*.A.com." other)), .call (.common (.setFallback other))]
    HostPattern.toText (.below "a.com") = HostName.canonical "*.A.com." ∧
      HostName.canonical "*.A.com." = HostName.canonical "*.a.COM" ∧
      ∃ next profile,
        (AnyDraft.ofActions engine .client actions).call (.common (.set "*.a.com" own)) = .ok next ∧
        (next.build engine).run.value = .ok profile ∧
        profile.identities.patterns = [.exact "a.com", .below "a.com", .any] ∧
        profile.identities.identityOf? (.below "a.com") = some own ∧
        profile.identities.identityOf? (.exact "a.com") = some other := by
  intro engine own other actions
  have hfirst : HostPattern.ofText "*.A.com." = .ok (.below "a.com") := by decide +kernel
  have hsecond : HostPattern.ofText "*.a.COM" = .ok (.below "a.com") := by decide +kernel
  have htrusted : (AnyDraft.ofActions engine .client actions).common.trusted = [] := by decide +kernel
  have hbuild := AnyDraft.build_of_trusted_eq_nil htrusted engine
  have hlisted : (AnyDraft.ofActions engine .client actions).common.identities.patterns =
      [.exact "a.com", .below "a.com", .any] := by
    decide +kernel
  have hexact : (AnyDraft.ofActions engine .client actions).common.identities.identityOf?
      (.exact "a.com") = some other := by
    decide +kernel
  obtain ⟨hwritten, hequal, hagain⟩ := patterns_written_and_read_back
  obtain ⟨next, _, hcall, hnext, hpatterns, hown, hothers⟩ :=
    hagain engine .client actions _ hbuild (.below "a.com") (hlisted ▸ by decide) own
  exact ⟨(hwritten _ _ hfirst).1, (hequal _ _ _ _ hfirst hsecond).mp rfl, next, _, hcall, hnext,
    hpatterns.trans hlisted, hown, (hothers (.exact "a.com") (by decide)).trans hexact⟩

end TlsIdentity
