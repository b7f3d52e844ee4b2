import TlsIdentity.Proofs.Labels
import TlsIdentity.Proofs.StoredNames
import TlsIdentity.Proofs.TableListing

/-!
# No identity is registered in vain

A level can be shadowed by single hosts under it, and the fallback by both. But a table holds finitely many
names, so there is always a host that is in none of them: `sampleHost` puts a label in front that is longer than
all registered names together. Its name is fit and its own canonical form, since what a level keeps is the rest
of a canonical form; it has one label more than the level's parent, so no other level holds it. What covers such
a host is the pattern itself or one less narrow (`eq_or_lt_of_covers_sampleHost`), and so look-up selects it.
-/

namespace TlsIdentity

/-! ## A host of one's own -/

/-- A label that is longer than all of these names together. -/
def HostName.longLabel (names : List String) : List Char :=
  List.replicate ((names.flatMap String.toList).length + 1) 'x'

/-- A host that a pattern covers: of a pattern for many hosts, one that is longer than all of these names. -/
def HostPattern.sampleHost (names : List String) : HostPattern → String
  | .any => String.ofList (HostName.longLabel names)
  | .exact name => name
  | .below parent => String.ofList (HostName.longLabel names ++ '.' :: parent.toList)

namespace HostName

variable {names : List String} {name : String}

theorem eq_of_mem_longLabel {c : Char} (h : c ∈ longLabel names) : c = 'x' :=
  List.eq_of_mem_replicate h

theorem dot_notMem_longLabel : '.' ∉ longLabel names := by
  intro h
  exact absurd (eq_of_mem_longLabel h) (by decide)

theorem isPlainLabel_longLabel (names : List String) : isPlainLabel (longLabel names) = true := by
  have hstar : '*' ∉ longLabel names := fun h => absurd (eq_of_mem_longLabel h) (by decide)
  have hnil : longLabel names ≠ [] := List.cons_ne_nil _ _
  simp [isPlainLabel, hstar, hnil]

/-- What begins with the long label is none of the names. -/
theorem notMem_of_toList_eq {rest : List Char} (h : name.toList = longLabel names ++ rest) : name ∉ names := by
  intro hmem
  have hle : name.toList.length ≤ (names.flatMap String.toList).length :=
    (List.infix_of_mem_flatten (List.mem_map_of_mem hmem)).length_le
  rw [h, List.length_append, longLabel, List.length_replicate] at hle
  omega

end HostName

namespace HostPattern

open HostName

variable {names : List String} {pattern other : HostPattern} {text parent : String}

theorem toList_sampleHost_below :
    (sampleHost names (.below parent)).toList = longLabel names ++ '.' :: parent.toList := by
  rw [sampleHost, String.toList_ofList]

theorem toList_sampleHost_any : (sampleHost names .any).toList = longLabel names := by
  rw [sampleHost, String.toList_ofList]

/-- The sample of a level has the long label and then the labels of the parent. -/
theorem labels_sampleHost_below :
    labels (sampleHost names (.below parent)) = longLabel names :: labels parent :=
  labels_of_toList_eq dot_notMem_longLabel toList_sampleHost_below

/-- A sample can be registered as a single host: its name is plain and its own canonical form. -/
theorem ofText?_sampleHost (h : ofText? text = some pattern) :
    ofText? (pattern.sampleHost names) = some (.exact (pattern.sampleHost names)) := by
  have hlabel : ∀ c ∈ longLabel names, c.toLower = c := by
    intro c hc
    rw [eq_of_mem_longLabel hc]
    decide
  have hfit : ∀ {host : String}, isPlain host = true → (∀ c ∈ host.toList, c.toLower = c) →
      ofText? host = some (.exact host) := fun hplain hlower =>
    ofText?_eq_some_exact_iff.mpr ⟨canonical_eq_self (getLast?_ne_dot_of_isPlain hplain) hlower, hplain⟩
  cases pattern with
  | exact name => exact ofText?_of_eq_some_exact h
  | any =>
    have hone : labels (sampleHost names .any) = [longLabel names] := by
      rw [labels_of_dot_notMem (toList_sampleHost_any ▸ dot_notMem_longLabel), toList_sampleHost_any]
    refine hfit ?_ ?_
    · rw [isPlain, hone, List.all_cons, isPlainLabel_longLabel]
      rfl
    · rw [toList_sampleHost_any]
      exact hlabel
  | below parent =>
    obtain ⟨hparent, hplain⟩ := ofText?_eq_some_below_iff.mp h
    refine hfit ?_ ?_
    · rw [isPlain, labels_sampleHost_below, List.all_cons, isPlainLabel_longLabel]
      exact hplain
    · rw [toList_sampleHost_below]
      intro c hc
      rcases List.mem_append.mp hc with hc | hc
      · exact hlabel c hc
      · -- a dot and the parent's characters stand in the canonical form of the level's text
        have hmem : c ∈ (HostName.canonical text).toList := by
          rw [hparent, String.toList_append]
          exact List.mem_cons_of_mem '*' hc
        exact toLower_of_mem_canonical hmem

theorem covers_sampleHost (names : List String) (pattern : HostPattern) :
    pattern.covers (pattern.sampleHost names) = true := by
  cases pattern with
  | any => rfl
  | exact name => exact covers_exact_iff.mpr rfl
  | below parent =>
    exact covers_below_iff.mpr (afterFirstDot?_eq_some_iff.mpr ⟨_, labels_sampleHost_below⟩)

/-- **What covers a sample is its own pattern or a less narrow one**, where single hosts are those of the names
    that the sample avoids. -/
theorem eq_or_lt_of_covers_sampleHost (hnames : ∀ name, other = .exact name → name ∈ names)
    (hcovers : other.covers (pattern.sampleHost names) = true) :
    other = pattern ∨ other.narrowness < pattern.narrowness := by
  cases other with
  | any =>
    cases pattern with
    | any => exact .inl rfl
    | exact name => exact .inr Nat.zero_lt_two
    | below parent => exact .inr Nat.zero_lt_one
  | exact name =>
    obtain rfl := covers_exact_iff.mp hcovers
    have hmem := hnames _ rfl
    cases pattern with
    | exact own => exact .inl rfl
    | any =>
      have hlabel : (sampleHost names .any).toList = longLabel names ++ [] := by
        rw [toList_sampleHost_any, List.append_nil]
      exact absurd hmem (notMem_of_toList_eq hlabel)
    | below parent => exact absurd hmem (notMem_of_toList_eq toList_sampleHost_below)
  | below own =>
    cases pattern with
    | exact name => exact .inr Nat.one_lt_two
    | below parent => exact .inl (congrArg _ (parent_unique hcovers (covers_sampleHost names _)))
    | any =>
      -- the sample of all hosts is a single label, which no level holds
      have hdot : '.' ∉ (sampleHost names .any).toList := toList_sampleHost_any ▸ dot_notMem_longLabel
      rw [covers_below_iff, afterFirstDot?, Text.splitFirst?_eq_none_iff.mpr hdot] at hcovers
      cases hcovers

end HostPattern

/-! ## Profiles -/

/-- **No identity is registered in vain.** Let a run of calls, on a draft of either kind, end in a profile, and
    let a pattern be listed by it, beside however many others. Then there is a host that

    * the pattern covers, and that has a name of its own, fit to be registered;
    * is presented the credential of the last successful call for the pattern;
    * is covered by no other pattern that is listed, but for less narrow ones: the host that shows a level to
      be alive is no registered single host and below no other level, and the one that shows the fallback to be
      alive is covered by the fallback only. -/
theorem every_identity_presented {engine : Engine} {role : Role} {calls : List ClientCall} {profile : Profile}
    (hbuild : ((AnyDraft.ofRun role calls).build engine).run.value = .ok profile)
    {pattern : HostPattern} (hpattern : pattern ∈ profile.identities.patterns) :
    ∃ host credential,
      HostPattern.ofText? host = some (.exact host) ∧
      pattern.covers (HostName.canonical host) = true ∧
      lastRequested (requestsOf (taken AnyDraft.call (.empty role) calls)) pattern = some credential ∧
      (profile.find host).value = some credential ∧
      ∀ other ∈ profile.identities.patterns, other.covers (HostName.canonical host) = true →
        other = pattern ∨ other.narrowness < pattern.narrowness := by
  have hidentities := (AnyDraft.builtBy_of_build hbuild).identities_eq
  have hrecords := IdentityTable.records_ofHistory (registeredBy calls)
  rw [hidentities, hrecords.mem_patterns_iff] at hpattern
  obtain ⟨text, htext⟩ := exists_text_of_mem_registeredBy hpattern
  obtain ⟨credential, hlast⟩ := Option.isSome_iff_exists.mp (History.isSome_lastFor_iff.mpr hpattern)
  let names := profile.identities.exact.names
  have hown : HostPattern.ofText? (pattern.sampleHost names) = some (.exact (pattern.sampleHost names)) :=
    HostPattern.ofText?_sampleHost htext
  have hcanonical := (HostPattern.ofText?_eq_some_exact_iff.mp hown).1
  have honly : ∀ other ∈ (registeredBy calls).map (·.1), other.covers (pattern.sampleHost names) = true →
      other = pattern ∨ other.narrowness < pattern.narrowness := by
    intro other hother
    refine HostPattern.eq_or_lt_of_covers_sampleHost ?_
    rintro name rfl
    show name ∈ profile.identities.exact.names
    rw [hidentities]
    exact (hrecords.mem_exact_names_iff name).mpr hother
  refine ⟨pattern.sampleHost names, credential, hown, ?_, ?_, ?_, ?_⟩
  · rw [hcanonical]
    exact HostPattern.covers_sampleHost names pattern
  · rw [← lastFor_filterMap, ← registeredBy_eq, registeredBy_taken, hlast]
  · rw [Profile.value_find, hidentities, IdentityTable.find?_ofHistory, History.resolve?_eq_some_iff, hcanonical]
    refine ⟨pattern, hlast, HostPattern.covers_sampleHost names pattern, fun other hother hcovers => ?_⟩
    rcases honly other hother hcovers with rfl | hlt
    · exact Nat.le_refl _
    · exact Nat.le_of_lt hlt
  · rw [hidentities, hcanonical]
    exact fun other hother => honly other (hrecords.mem_patterns_iff.mp hother)

/-- A level under another one, with single hosts below both and the fallback; the outer level's credential is
    replaced, and some host is presented the new one. -/
theorem outer_level_presented :
    let engine := Catalogue.engine []
    let own : Credential := ⟨none, [⟨[1]⟩], ⟨"key", some .ecdsa⟩⟩
    let other : Credential := ⟨none, [⟨[2]⟩], ⟨"other", some .rsa⟩⟩
    let calls : List ClientCall := [.common (.set "*.a.com" other), .common (.set "*.B.a.com" other),
      .common (.set "x.a.com" other), .common (.set "x.b.a.com." other), .common (.setFallback other),
      .common (.set "*.A.com." own)]
    ∃ profile, ((AnyDraft.ofRun .server calls).build engine).run.value = .ok profile ∧
      .below "a.com" ∈ profile.identities.patterns ∧
      ∃ host, (HostPattern.below "a.com").covers (HostName.canonical host) = true ∧
        (profile.find host).value = some own := by
  intro engine own other calls
  have hbuild := AnyDraft.build_of_trustedBy_eq_nil (show trustedBy calls = [] from rfl) .server engine
  have hmem : .below "a.com" ∈ ((AnyDraft.ofRun .server calls).frozen engine).identities.patterns := by
    rw [(AnyDraft.builtBy_of_build hbuild).identities_eq,
      (IdentityTable.records_ofHistory _).mem_patterns_iff]
    decide +kernel
  obtain ⟨host, credential, _, hcovers, hlast, hfound, _⟩ := every_identity_presented hbuild hmem
  have hown : lastRequested (requestsOf (taken AnyDraft.call (.empty .server) calls)) (.below "a.com") =
      some own := by
    rw [← lastFor_filterMap, ← registeredBy_eq, registeredBy_taken]
    decide +kernel
  rw [hown] at hlast
  exact ⟨_, hbuild, hmem, host, hcovers, hfound.trans hlast.symm⟩

end TlsIdentity
