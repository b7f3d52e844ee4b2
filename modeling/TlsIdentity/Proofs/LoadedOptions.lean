import TlsIdentity.Proofs.AppliedOptions
import TlsIdentity.Proofs.Relations

/-!
# What applied options load

Applying options loads credentials and certificates one after the other, and puts each into the draft before
the next is loaded. What is loaded does not depend on what was put there: every load asks the files and the
backend of the draft, and no load changes the backend. So applying options is the same as loading everything
first (`Options.Loads`) and putting it into the draft at once (`Draft.withLoaded`); `apply_eq_ok_iff` says
this, and later modules never open `apply`. What an action of any kind does stands in `AnyDraft.common_of_act`.
-/

namespace TlsIdentity

/-! ## What files hold -/

namespace FileSource

variable {files : FileSource} {path : String}

theorem readPrivateKey_eq_ok_iff {key : PrivateKey} :
    files.readPrivateKey path = .ok key ↔
      ∃ contents, files.read path = .ok contents ∧ files.privateKey contents = .ok (some key) := by
  unfold readPrivateKey
  simp only [bind_eq_ok_iff, mapError_eq_ok_iff]
  refine exists_congr fun contents => and_congr_right fun _ => ?_
  constructor
  · rintro ⟨key?, hkey, hsome⟩
    cases key? with
    | none => cases hsome
    | some own =>
      cases hsome
      exact hkey
  · intro hkey
    exact ⟨some key, hkey, rfl⟩

theorem readCertificates_eq_ok_iff {certificates : List Certificate} :
    files.readCertificates path = .ok certificates ↔
      ∃ contents, files.read path = .ok contents ∧ files.certificates contents = .ok certificates := by
  unfold readCertificates
  simp only [bind_eq_ok_iff, mapError_eq_ok_iff]

theorem value_loadCertificates (files : FileSource) (path : String) :
    (files.loadCertificates path).run.value = files.readCertificates path := by
  unfold loadCertificates
  cases hread : files.readCertificates path with
  | error error => rfl
  | ok certificates => cases certificates <;> rfl

end FileSource

/-! ## What is loaded -/

/-- What options load: the credential of the fallback, those of the identities with their patterns, and
    certificates that are to be trust anchors. -/
structure Loaded where
  fallback : Option Credential
  entries : History Credential
  certificates : List Certificate

/-- All that is loaded for registration, in the order in which it is registered. -/
def Loaded.history (loaded : Loaded) : History Credential :=
  loaded.fallback.toList.map (fun credential => (.any, credential)) ++ loaded.entries

/-- The files at two paths, the key's and the certificates', make this credential. -/
def FileSource.Makes (files : FileSource) (engine : Engine) (backend : Backend) (paths : String × String)
    (credential : Credential) : Prop :=
  (files.loadCredential engine backend paths.1 paths.2).run.value = .ok credential

/-- Files make one credential at most. -/
theorem FileSource.Makes.eq_of_rel {files : FileSource} {engine : Engine} {backend : Backend}
    {paths : String × String} {credential : Credential} {found : Option Credential}
    (h : files.Makes engine backend paths credential)
    (hfound : Option.Rel (files.Makes engine backend) (some paths) found) : found = some credential := by
  cases hfound with
  | some hmakes => exact congrArg some (Except.ok.inj (hmakes.symm.trans h))

namespace IdentityArgument

/-- The paths of the key and of the certificates. -/
def paths (argument : IdentityArgument) : String × String :=
  (argument.keyPath, argument.certPath)

/-- The argument loads this credential for this pattern. -/
structure Loads (argument : IdentityArgument) (engine : Engine) (files : FileSource) (backend : Backend)
    (entry : HostPattern × Credential) : Prop where
  pattern : HostPattern.ofText? argument.host = some entry.1
  credential : files.Makes engine backend argument.paths entry.2

end IdentityArgument

namespace Options

/-- The paths of the fallback's key and certificates, if both are given. -/
def fallbackPaths? (options : Options) : Option (String × String) :=
  options.keyPath.bind fun keyPath => options.certPath.map fun certPath => (keyPath, certPath)

/-- The certificates that the options name, if any are named. -/
def loadAnchors (options : Options) (files : FileSource) : Except LoadError (List Certificate) :=
  match options.anchorsPath with
  | some path => (files.loadCertificates path).run.value
  | none => .ok []

/-- The certificates that the options name are those in the contents of their file; if no file is named there
    are none. -/
theorem loadAnchors_eq_ok_iff {options : Options} {files : FileSource} {certificates : List Certificate} :
    options.loadAnchors files = .ok certificates ↔
      match options.anchorsPath with
      | some path => ∃ contents, files.read path = .ok contents ∧ files.certificates contents = .ok certificates
      | none => certificates = [] := by
  unfold loadAnchors
  cases options.anchorsPath with
  | none =>
    show Except.ok [] = Except.ok certificates ↔ certificates = []
    rw [Except.ok.injEq, eq_comm]
  | some path =>
    show (files.loadCertificates path).run.value = .ok certificates ↔ _
    rw [FileSource.value_loadCertificates, FileSource.readCertificates_eq_ok_iff]

/-- The options load all this, every key by one backend. -/
structure Loads (options : Options) (engine : Engine) (files : FileSource) (backend : Backend)
    (loaded : Loaded) : Prop where
  /-- The two paths of the fallback are given together. -/
  paired : options.keyPath.isSome = options.certPath.isSome
  fallback : Option.Rel (files.Makes engine backend) options.fallbackPaths? loaded.fallback
  entries : List.Forall₂ (fun argument entry => argument.Loads engine files backend entry)
    options.identities loaded.entries
  certificates : options.loadAnchors files = .ok loaded.certificates

end Options

/-! ## What is put into a draft -/

namespace Draft

/-- The draft with registrations, made in this order. -/
def registering (draft : Draft) (history : History Credential) : Draft :=
  { draft with
    identities := history.foldl (fun table entry => table.insert entry.1 entry.2) draft.identities }

/-- The draft with all that options load. -/
def withLoaded (draft : Draft) (loaded : Loaded) : Draft :=
  (draft.registering loaded.history).trust loaded.certificates

variable {draft : Draft}

theorem registering_registering (first later : History Credential) :
    (draft.registering first).registering later = draft.registering (first ++ later) := by
  simp only [registering, List.foldl_append]

theorem trust_nil : draft.trust [] = draft := by
  rw [trust, List.append_nil]

end Draft

/-! ## Applying -/

namespace Options

variable {options : Options} {engine : Engine} {files : FileSource} {draft next : Draft}

theorem applyFallback_eq_ok_iff :
    (options.applyFallback engine files draft).run.value = .ok next ↔
      options.keyPath.isSome = options.certPath.isSome ∧
        ∃ fallback, Option.Rel (files.Makes engine (draft.backend engine)) options.fallbackPaths? fallback ∧
          next = draft.registering (fallback.toList.map fun credential => (.any, credential)) := by
  unfold applyFallback fallbackPaths?
  cases options.keyPath with
  | none =>
    cases options.certPath with
    | none =>
      rw [Attempt.value_pure_eq_ok_iff]
      constructor
      · rintro rfl
        exact ⟨rfl, none, .none, rfl⟩
      · rintro ⟨_, fallback, hfallback, rfl⟩
        cases hfallback
        rfl
    | some certPath =>
      constructor
      · intro h
        cases h
      · rintro ⟨hpaired, _⟩
        cases hpaired
  | some keyPath =>
    cases options.certPath with
    | none =>
      constructor
      · intro h
        cases h
      · rintro ⟨hpaired, _⟩
        cases hpaired
    | some certPath =>
      rw [Attempt.value_bind_eq_ok_iff]
      constructor
      · rintro ⟨credential, hcredential, hnext⟩
        exact ⟨rfl, some credential, .some hcredential, (Attempt.value_pure_eq_ok_iff.mp hnext).symm⟩
      · rintro ⟨_, fallback, hfallback, rfl⟩
        cases hfallback with
        | some hcredential => exact ⟨_, hcredential, rfl⟩

theorem applyIdentity_eq_ok_iff {argument : IdentityArgument} :
    (applyIdentity engine files draft argument).run.value = .ok next ↔
      ∃ entry, argument.Loads engine files (draft.backend engine) entry ∧ next = draft.registering [entry] := by
  unfold applyIdentity Draft.set HostPattern.ofText
  rw [Attempt.value_bind_eq_ok_iff]
  constructor
  · rintro ⟨credential, hcredential, hset⟩
    cases hpattern : HostPattern.ofText? argument.host with
    | none =>
      rw [hpattern] at hset
      cases hset
    | some pattern =>
      rw [hpattern] at hset
      cases hset
      exact ⟨(pattern, credential), ⟨hpattern, hcredential⟩, rfl⟩
  · rintro ⟨⟨pattern, credential⟩, ⟨hpattern, hcredential⟩, rfl⟩
    refine ⟨credential, hcredential, ?_⟩
    rw [hpattern]
    rfl

theorem foldlM_applyIdentity_eq_ok_iff {arguments : List IdentityArgument} :
    (arguments.foldlM (applyIdentity engine files) draft).run.value = .ok next ↔
      ∃ entries, List.Forall₂ (fun argument entry => argument.Loads engine files (draft.backend engine) entry)
        arguments entries ∧ next = draft.registering entries := by
  induction arguments generalizing draft with
  | nil =>
    rw [List.foldlM_nil, Attempt.value_pure_eq_ok_iff]
    constructor
    · rintro rfl
      exact ⟨[], .nil, rfl⟩
    · rintro ⟨entries, hentries, rfl⟩
      cases hentries
      rfl
  | cons argument rest ih =>
    rw [List.foldlM_cons, Attempt.value_bind_eq_ok_iff]
    constructor
    · rintro ⟨mid, hfirst, hrest⟩
      obtain ⟨entry, hentry, rfl⟩ := applyIdentity_eq_ok_iff.mp hfirst
      obtain ⟨entries, hentries, rfl⟩ := ih.mp hrest
      exact ⟨entry :: entries, .cons hentry hentries, Draft.registering_registering _ _⟩
    · rintro ⟨_, hentries, rfl⟩
      cases hentries with
      | cons hentry hentries =>
        refine ⟨_, applyIdentity_eq_ok_iff.mpr ⟨_, hentry, rfl⟩, ih.mpr ⟨_, hentries, ?_⟩⟩
        rw [Draft.registering_registering, List.singleton_append]

theorem applyAnchors_eq_ok_iff :
    (options.applyAnchors files draft).run.value = .ok next ↔
      ∃ certificates, options.loadAnchors files = .ok certificates ∧ next = draft.trust certificates := by
  unfold applyAnchors loadAnchors
  cases options.anchorsPath with
  | none =>
    simp only [Attempt.value_pure_eq_ok_iff, Except.ok.injEq, exists_eq_left', Draft.trust_nil]
    exact eq_comm
  | some path =>
    simp only [Attempt.value_bind_eq_ok_iff, Attempt.value_pure_eq_ok_iff]
    exact exists_congr fun certificates => and_congr_right fun _ => eq_comm

/-- **Applying options is loading everything that they name and putting it into the draft.** -/
theorem apply_eq_ok_iff :
    (options.apply engine files draft).run.value = .ok next ↔
      ∃ loaded, options.Loads engine files (draft.backend engine) loaded ∧ next = draft.withLoaded loaded := by
  unfold apply
  simp only [Attempt.value_bind_eq_ok_iff, applyFallback_eq_ok_iff, foldlM_applyIdentity_eq_ok_iff,
    applyAnchors_eq_ok_iff]
  constructor
  · rintro ⟨_, ⟨hpaired, fallback, hfallback, rfl⟩, _, ⟨entries, hentries, rfl⟩, certificates, hcertificates,
      rfl⟩
    refine ⟨⟨fallback, entries, certificates⟩, ⟨hpaired, hfallback, hentries, hcertificates⟩, ?_⟩
    rw [Draft.withLoaded, Loaded.history, Draft.registering_registering]
  · rintro ⟨⟨fallback, entries, certificates⟩, ⟨hpaired, hfallback, hentries, hcertificates⟩, rfl⟩
    refine ⟨_, ⟨hpaired, fallback, hfallback, rfl⟩, _, ⟨entries, hentries, rfl⟩, certificates, hcertificates, ?_⟩
    rw [Draft.withLoaded, Loaded.history, Draft.registering_registering]

/-! ## When everything can be loaded -/

/-- The paths of all credentials that the options name, the fallback's first. -/
def credentialPaths (options : Options) : List (String × String) :=
  options.fallbackPaths?.toList ++ options.identities.map (·.paths)

/-- Everything that the options name can be loaded. -/
structure Loadable (options : Options) (engine : Engine) (files : FileSource) (backend : Backend) : Prop where
  paired : options.keyPath.isSome = options.certPath.isSome
  credentials : ∀ paths ∈ options.credentialPaths, ∃ credential, files.Makes engine backend paths credential
  certificates : ∃ certificates, options.loadAnchors files = .ok certificates

/-- Where every host of an identity is fit, options load something exactly if everything can be loaded. -/
theorem exists_loads_iff {backend : Backend}
    (hfit : ∀ argument ∈ options.identities, ∃ pattern, HostPattern.ofText? argument.host = some pattern) :
    (∃ loaded, options.Loads engine files backend loaded) ↔ options.Loadable engine files backend := by
  constructor
  · rintro ⟨loaded, h⟩
    refine ⟨h.paired, fun paths hpaths => ?_, _, h.certificates⟩
    rcases List.mem_append.mp hpaths with hfallback | hidentities
    · exact exists_rel_iff.mp ⟨_, h.fallback⟩ paths (Option.mem_toList.mp hfallback)
    · obtain ⟨argument, hargument, rfl⟩ := List.mem_map.mp hidentities
      obtain ⟨entry, hentry⟩ := exists_forall₂_iff.mp ⟨_, h.entries⟩ argument hargument
      exact ⟨_, hentry.credential⟩
  · intro h
    have hfallback : ∃ fallback, Option.Rel (files.Makes engine backend) options.fallbackPaths? fallback :=
      exists_rel_iff.mpr fun paths hpaths =>
        h.credentials paths (List.mem_append_left _ (Option.mem_toList.mpr hpaths))
    have hentries : ∃ entries, List.Forall₂
        (fun argument entry => argument.Loads engine files backend entry) options.identities entries := by
      refine exists_forall₂_iff.mpr fun argument hargument => ?_
      obtain ⟨pattern, hpattern⟩ := hfit argument hargument
      obtain ⟨credential, hcredential⟩ :=
        h.credentials argument.paths (List.mem_append_right _ (List.mem_map_of_mem hargument))
      exact ⟨(pattern, credential), hpattern, hcredential⟩
    obtain ⟨fallback, hfallback⟩ := hfallback
    obtain ⟨entries, hentries⟩ := hentries
    obtain ⟨certificates, hcertificates⟩ := h.certificates
    exact ⟨⟨fallback, entries, certificates⟩, h.paired, hfallback, hentries, hcertificates⟩

end Options

/-! ## Drafts of either kind -/

namespace AnyDraft

/-- The draft with all that options load. -/
def withLoaded (any : AnyDraft) (loaded : Loaded) : AnyDraft :=
  match any with
  | .server draft => .server (draft.withLoaded loaded)
  | .client draft => .client { draft with common := draft.common.withLoaded loaded }

variable {any next : AnyDraft} {engine : Engine} {files : FileSource} {options : Options} {loaded : Loaded}

@[simp] theorem common_withLoaded : (any.withLoaded loaded).common = any.common.withLoaded loaded := by
  cases any <;> rfl

theorem applyOptions_eq_ok_iff :
    (any.applyOptions engine files options).run.value = .ok next ↔
      ∃ loaded, options.Loads engine files (any.common.backend engine) loaded ∧ next = any.withLoaded loaded := by
  cases any with
  | server draft | client draft =>
    simp only [applyOptions, Attempt.value_bind_eq_ok_iff, Options.apply_eq_ok_iff,
      Attempt.value_pure_eq_ok_iff]
    constructor
    · rintro ⟨_, ⟨loaded, hloads, rfl⟩, rfl⟩
      exact ⟨loaded, hloads, rfl⟩
    · rintro ⟨loaded, hloads, rfl⟩
      exact ⟨_, ⟨loaded, hloads, rfl⟩, rfl⟩

/-- **All that an action does** to what every draft has, when it succeeds: a call does what it says, one about
    verification does nothing, and options put there what they load. -/
theorem common_of_act {action : DraftAction} (h : any.act engine action = .ok next) :
    (∃ call, action = .call (.common call) ∧ call.unfit? = none ∧ next.common = any.common.after call) ∨
    (∃ call, action = .call (.exemption call) ∧ next.common = any.common) ∨
    ∃ files options loaded, action = .apply files options ∧
      options.Loads engine files (any.common.backend engine) loaded ∧ next.common = any.common.withLoaded loaded := by
  cases action with
  | call call =>
    cases call with
    | common call =>
      have hcall := mapError_eq_ok_iff.mp (isPart_common.part_of_ok rfl h)
      exact .inl ⟨call, rfl, Draft.call_eq_ok_iff.mp hcall⟩
    | exemption call => exact .inr (.inl ⟨call, rfl, isPart_common.passed rfl h⟩)
  | apply files options =>
    obtain ⟨loaded, hloads, rfl⟩ := applyOptions_eq_ok_iff.mp (mapError_eq_ok_iff.mp h)
    exact .inr (.inr ⟨files, options, loaded, rfl, hloads, common_withLoaded⟩)

end AnyDraft

end TlsIdentity
