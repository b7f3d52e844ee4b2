import TlsIdentity.Catalogue
import TlsIdentity.Proofs.AppliedOptions
import TlsIdentity.Proofs.PresentedIdentity

/-!
# The names that tables store

A client that tells no name is looked up as `*`, a text from the same space as the names of hosts. That
this finds the fallback and nothing else rests on what can be stored: every stored name comes from a text
that stands for a pattern, so its labels are plain and its letters small (`HostName.IsStored`). No such
name is `*`, and no level holds `*`, which has no dot. Tables that are put together from patterns of other
origin need not be so.
-/

namespace TlsIdentity

/-! ## Stored names -/

namespace HostName

/-- A name as tables store it: without stars, empty labels and capital letters, and its own canonical
    form. -/
structure IsStored (name : String) : Prop where
  star_notMem : '*' ∉ name.toList
  nil_notMem : [] ∉ labels name
  no_capital : ∀ c ∈ name.toList, c.isUpper = false
  canonical_eq : canonical name = name

/-- A plain name whose characters come from a canonical form can be stored. -/
theorem isStored_of_isPlain {name : String} (text : String) (hplain : isPlain name = true)
    (hpart : ∀ c ∈ name.toList, c ∈ (canonical text).toList) : IsStored name := by
  have hlower : ∀ c ∈ name.toList, c.toLower = c := fun c hc => toLower_of_mem_canonical (hpart c hc)
  refine ⟨star_notMem_of_isPlain hplain, ?_, ?_, ?_⟩
  · intro hempty
    exact (isPlain_iff.mp hplain [] hempty).1 rfl
  · intro c hc
    exact toLower_eq_self_iff.mp (hlower c hc)
  · exact canonical_eq_self (getLast?_ne_dot_of_isPlain hplain) hlower

end HostName

namespace HostPattern

variable {text name : String}

theorem isStored_of_exact (h : ofText? text = some (.exact name)) : HostName.IsStored name := by
  obtain ⟨hname, hplain⟩ := ofText?_eq_some_exact_iff.mp h
  refine HostName.isStored_of_isPlain text hplain fun c hc => ?_
  rwa [hname]

/-- The name of a level is the rest of a canonical form after its star label. -/
theorem isStored_of_below (h : ofText? text = some (.below name)) : HostName.IsStored name := by
  obtain ⟨hname, hplain⟩ := ofText?_eq_some_below_iff.mp h
  refine HostName.isStored_of_isPlain text hplain fun c hc => ?_
  rw [hname, String.toList_append]
  exact List.mem_append_right _ hc

end HostPattern

/-! ## Profiles -/

namespace Profile.BuiltBy

variable {profile : Profile} {engine : Engine} {calls : List ClientCall} {name : String}

theorem isStored_of_mem_exact (h : profile.BuiltBy engine calls)
    (hname : name ∈ profile.identities.exact.names) : HostName.IsStored name := by
  rw [h.identities_eq, (IdentityTable.records_ofHistory _).mem_exact_names_iff] at hname
  obtain ⟨text, htext⟩ := exists_text_of_mem_registeredBy hname
  exact HostPattern.isStored_of_exact htext

theorem isStored_of_mem_below (h : profile.BuiltBy engine calls)
    (hname : name ∈ profile.identities.below.names) : HostName.IsStored name := by
  rw [h.identities_eq, (IdentityTable.records_ofHistory _).mem_below_names_iff] at hname
  obtain ⟨text, htext⟩ := exists_text_of_mem_registeredBy hname
  exact HostPattern.isStored_of_below htext

end Profile.BuiltBy

/-- **A client that tells no name gets the fallback and nothing else.** For every profile that calls and
    applied options make, on a draft of either kind and in whatever order:

    * looking for `*`, and so a client that tells no name, finds the fallback, or nothing if there is none;
    * every name stored for a single host or for a level is without stars, empty labels and capital
      letters, and is its own canonical form. -/
theorem no_name_gets_fallback {engine : Engine} {role : Role} {actions : List DraftAction}
    {profile : Profile}
    (hbuild : ((AnyDraft.ofActions engine role actions).build engine).run.value = .ok profile) :
    (profile.find HostPattern.anyText).value = profile.identities.fallback ∧
      (profile.findIndicated none).value = profile.identities.fallback ∧
      (∀ name ∈ profile.identities.exact.names, HostName.IsStored name) ∧
      ∀ name ∈ profile.identities.below.names, HostName.IsStored name := by
  obtain ⟨calls, hcalls⟩ := AnyDraft.exists_ofRun_eq engine role actions
  rw [← hcalls] at hbuild
  have hbuilt := AnyDraft.builtBy_of_build hbuild
  have hfallback := hbuilt.findIndicated_none
  refine ⟨hfallback, hfallback, ?_, ?_⟩
  · intro name hname
    exact hbuilt.isStored_of_mem_exact hname
  · intro name hname
    exact hbuilt.isStored_of_mem_below hname

/-- A server's fallback is loaded from files after another one was set as `*.`, and `*.*` is refused. The
    level that was registered between them is not found in the fallback's place. -/
theorem loaded_fallback_found_beside_level :
    let engine := Catalogue.engine
      [⟨"own", ⟨[1]⟩, .ecdsa, [⟨.pkcs8, [2]⟩], [], "own", false, 0, 0⟩]
    let own : Credential := ⟨none, [⟨[1]⟩], ⟨"own", some .ecdsa⟩⟩
    let other : Credential := ⟨none, [⟨[3]⟩], ⟨"other", some .rsa⟩⟩
    let files := Directory.source [("key", Text.encode (Pem.sectionText "PRIVATE KEY" ["Ag=="])),
      ("cert", Text.encode (Pem.sectionText "CERTIFICATE" ["AQ=="]))]
    let actions : List DraftAction := [.call (.common (.set "*." other)),
      .call (.common (.set "*.B.com." other)), .apply files { keyPath := "key", certPath := "cert" },
      .call (.common (.set "*.*" other))]
    ∃ profile, ((AnyDraft.ofActions engine .server actions).build engine).run.value = .ok profile ∧
      (profile.findIndicated none).value = some own ∧
      profile.identities.below.names = ["b.com"] ∧ HostName.IsStored "b.com" := by
  intro engine own other files actions
  have htrusted : (AnyDraft.ofActions engine .server actions).common.trusted = [] := by decide +kernel
  have hfallback : (AnyDraft.ofActions engine .server actions).common.identities.fallback = some own := by
    decide +kernel
  have hbelow : (AnyDraft.ofActions engine .server actions).common.identities.below.names = ["b.com"] := by
    decide +kernel
  have hbuild := Draft.freeze_of_trusted_eq_nil htrusted engine
    (AnyDraft.ofActions engine .server actions).policy
  rw [← AnyDraft.build_eq_freeze] at hbuild
  obtain ⟨_, hfound, _, hstored⟩ := no_name_gets_fallback hbuild
  exact ⟨_, hbuild, hfound.trans hfallback, hbelow,
    hstored "b.com" (hbelow ▸ List.mem_cons_self)⟩

end TlsIdentity
