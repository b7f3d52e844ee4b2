import TlsIdentity.Catalogue
import TlsIdentity.Proofs.Exclusion
import TlsIdentity.Proofs.ResolvedWords

/-!
# The first step that fails

Applying options is one attempt after the other, and each goes on with the draft that the one before has made.
Whether a step fails does not depend on the draft it is given but only on the draft's backend, which no step
changes. So the options by themselves say what will be done (`Options.steps`, `ClientOptions.steps`), each step
says by itself how it fails (`ApplyStep.failure?`), and applying options ends as the first of the steps that
fails. A draft may refuse the text of a host, but no draft refuses one that has been read from words.
-/

namespace TlsIdentity

/-! ## The error of an attempt -/

namespace Attempt

variable {ε α β : Type}

/-- The error with which an attempt ends, if it fails. -/
def error? (attempt : Attempt ε α) : Option ε :=
  match attempt.run.value with
  | .error error => some error
  | .ok _ => none

theorem error?_eq_some_iff {attempt : Attempt ε α} {error : ε} :
    attempt.error? = some error ↔ attempt.run.value = .error error := by
  unfold error?
  cases attempt.run.value <;> simp

theorem error?_eq_none_iff {attempt : Attempt ε α} :
    attempt.error? = none ↔ ∃ a, attempt.run.value = .ok a := by
  unfold error?
  cases attempt.run.value <;> simp

theorem error?_ofExcept (outcome : Except ε α) : (ofExcept outcome).error? = errorOf? outcome := by
  cases outcome <;> rfl

theorem error?_bind_of_error {first : Attempt ε α} {next : α → Attempt ε β} {error : ε}
    (h : first.run.value = .error error) : (first >>= next).error? = some error :=
  error?_eq_some_iff.mpr (value_bind_of_error h)

theorem error?_bind_of_ok {first : Attempt ε α} {next : α → Attempt ε β} {a : α}
    (h : first.run.value = .ok a) : (first >>= next).error? = (next a).error? := by
  rw [error?, value_bind_of_ok h, error?]

/-- Of two steps the first one that fails gives the error. How the second fails must not depend on the value
    that the first hands on. -/
theorem error?_bind {first : Attempt ε α} {next : α → Attempt ε β} {rest : Option ε}
    (hnext : ∀ a, first.run.value = .ok a → (next a).error? = rest) :
    (first >>= next).error? = first.error?.or rest := by
  cases hfirst : first.run.value with
  | error error => rw [error?_bind_of_error hfirst, error?_eq_some_iff.mpr hfirst, Option.some_or]
  | ok a => rw [error?_bind_of_ok hfirst, hnext a hfirst, error?_eq_none_iff.mpr ⟨a, hfirst⟩, Option.none_or]

/-- A step that only does something with the value of the step before has no error of its own. -/
theorem error?_bind_pure (first : Attempt ε α) (f : α → β) :
    (do return f (← first) : Attempt ε β).error? = first.error? := by
  have hfirst : (do return f (← first) : Attempt ε β).error? = first.error?.or none :=
    error?_bind fun _ _ => rfl
  rw [hfirst, Option.or_none]

end Attempt

/-! ## Kinds of errors -/

/-- If the outcome is an error, it is such. -/
def OnlyFailsWith {ε α : Type} (P : ε → Prop) (outcome : Except ε α) : Prop :=
  ∀ error, outcome = .error error → P error

namespace OnlyFailsWith

variable {ε ε' α β : Type} {P : ε → Prop}

theorem ok (a : α) : OnlyFailsWith P (.ok a) :=
  fun _ h => nomatch h

theorem error {error : ε} (h : P error) : OnlyFailsWith P (.error error : Except ε α) := by
  rintro _ ⟨⟩
  exact h

theorem mapError {wrap : ε' → ε} (h : ∀ error, P (wrap error)) (outcome : Except ε' α) :
    OnlyFailsWith P (outcome.mapError wrap) := by
  cases outcome with
  | error own => exact .error (h own)
  | ok a => exact .ok a

theorem bind {first : Except ε α} {next : α → Except ε β} (hfirst : OnlyFailsWith P first)
    (hnext : ∀ a, OnlyFailsWith P (next a)) : OnlyFailsWith P (first >>= next) := by
  cases first with
  | error own => exact .error (hfirst own rfl)
  | ok a => exact hnext a

theorem attempt_bind {first : Attempt ε α} {next : α → Attempt ε β}
    (hfirst : OnlyFailsWith P first.run.value) (hnext : ∀ a, OnlyFailsWith P (next a).run.value) :
    OnlyFailsWith P (first >>= next).run.value := by
  cases hvalue : first.run.value with
  | error own =>
    rw [Attempt.value_bind_of_error hvalue]
    exact .error (hfirst own hvalue)
  | ok a =>
    rw [Attempt.value_bind_of_ok hvalue]
    exact hnext a

end OnlyFailsWith

/-! ## Steps -/

/-- One thing that is done when options are applied. -/
inductive ApplyStep where
  /-- Look whether the paths of the fallback are given together. -/
  | pairPaths (keyPath certPath : Option String)
  /-- Load the credential at the paths of a key and of certificates. -/
  | loadCredential (paths : String × String)
  /-- Load the certificates at a path. -/
  | loadAnchors (path : String)
  /-- Look whether hosts are listed although every server is exempt. -/
  | oneKind (exemptsAll : Bool) (hosts : List String)
  /-- Look whether a listed text stands for a single host. -/
  | singleHost (text : String)

/-- How a step fails, if it does. No step asks what others did. -/
def ApplyStep.failure? (engine : Engine) (files : FileSource) (backend : Backend) : ApplyStep → Option LoadError
  | .pairPaths keyPath certPath => if keyPath.isSome = certPath.isSome then none else some .incompleteKeyPair
  | .loadCredential paths => (files.loadCredential engine backend paths.1 paths.2).error?
  | .loadAnchors path => (files.loadCertificates path).error?
  | .oneKind exemptsAll hosts =>
    if exemptsAll ∧ hosts ≠ [] then some (.config .verificationConflict) else none
  | .singleHost text =>
    if HostPattern.isSingleHost text then none else some (.config (.invalidHost text))

/-- What is done when the options are applied, in order: the paths of the fallback are looked at and loaded,
    then the identities of hosts are loaded as they were given, then the trust anchors. -/
def Options.steps (options : Options) : List ApplyStep :=
  .pairPaths options.keyPath options.certPath :: options.fallbackPaths?.toList.map .loadCredential ++
    options.identities.map (fun argument => .loadCredential argument.paths) ++
    options.anchorsPath.toList.map .loadAnchors

/-- What is done for a client: what is done for any program, then the exemptions are looked at, first of all
    whether they are of one kind. -/
def ClientOptions.steps (options : ClientOptions) : List ApplyStep :=
  options.common.steps ++ .oneKind options.exemptsAll options.exemptHosts ::
    options.exemptHosts.map .singleHost

/-- How the first of the steps that fail does so. -/
def firstFailure? (engine : Engine) (files : FileSource) (backend : Backend) (steps : List ApplyStep) :
    Option LoadError :=
  steps.findSome? (·.failure? engine files backend)

section

variable {engine : Engine} {files : FileSource} {backend : Backend}

theorem firstFailure?_cons (step : ApplyStep) (rest : List ApplyStep) :
    firstFailure? engine files backend (step :: rest) =
      (step.failure? engine files backend).or (firstFailure? engine files backend rest) := by
  rw [firstFailure?, List.findSome?_cons]
  cases step.failure? engine files backend <;> rfl

theorem firstFailure?_singleton (step : ApplyStep) :
    firstFailure? engine files backend [step] = step.failure? engine files backend := by
  rw [firstFailure?_cons]
  exact Option.or_none

theorem firstFailure?_append (first later : List ApplyStep) :
    firstFailure? engine files backend (first ++ later) =
      (firstFailure? engine files backend first).or (firstFailure? engine files backend later) :=
  List.findSome?_append

theorem firstFailure?_eq_none_iff {steps : List ApplyStep} :
    firstFailure? engine files backend steps = none ↔
      ∀ step ∈ steps, step.failure? engine files backend = none :=
  List.findSome?_eq_none_iff

end

/-! ## Errors of loading -/

/-- An error in which no draft has a part. -/
def LoadError.IsOfFiles (error : LoadError) : Prop :=
  ∀ cause, error ≠ .config cause

namespace FileSource

variable {files : FileSource} {engine : Engine} {backend : Backend}

theorem onlyFailsWith_readCertificates (path : String) :
    OnlyFailsWith LoadError.IsOfFiles (files.readCertificates path) := by
  refine .bind (.mapError (fun _ => nofun) _) fun contents => ?_
  exact .mapError (fun _ => nofun) _

theorem onlyFailsWith_readPrivateKey (path : String) :
    OnlyFailsWith LoadError.IsOfFiles (files.readPrivateKey path) := by
  refine .bind (.mapError (fun _ => nofun) _) fun contents => ?_
  refine .bind (.mapError (fun _ => nofun) _) fun key? => ?_
  cases key? with
  | none => exact .error nofun
  | some key => exact .ok key

theorem onlyFailsWith_joinCredential (key : PrivateKey) (leaf : Certificate) (others : List Certificate) :
    OnlyFailsWith LoadError.IsOfFiles (joinCredential engine backend key leaf others) := by
  refine .bind (.mapError (fun _ => nofun) _) fun loaded => ?_
  refine .bind (.mapError (fun _ => nofun) _) fun _ => ?_
  exact .ok _

theorem onlyFailsWith_loadCertificates (path : String) :
    OnlyFailsWith LoadError.IsOfFiles (files.loadCertificates path).run.value := by
  refine .attempt_bind (onlyFailsWith_readCertificates path) fun certificates => ?_
  split <;> exact .ok _

theorem onlyFailsWith_loadCredential (keyPath certPath : String) :
    OnlyFailsWith LoadError.IsOfFiles (files.loadCredential engine backend keyPath certPath).run.value := by
  refine .attempt_bind (onlyFailsWith_readPrivateKey keyPath) fun key => ?_
  refine .attempt_bind (onlyFailsWith_loadCertificates certPath) fun certificates => ?_
  cases certificates with
  | nil => exact .error nofun
  | cons leaf others =>
    refine .attempt_bind (onlyFailsWith_joinCredential key leaf others) fun credential => ?_
    exact .ok _

end FileSource

/-! ## Applying, step by step -/

/-- Where a host is fit, no draft refuses a credential for it. -/
theorem Draft.exists_set_eq_ok {host : String} (hfit : ∃ pattern, HostPattern.ofText? host = some pattern)
    (draft : Draft) (credential : Credential) : ∃ next, draft.set host credential = .ok next := by
  obtain ⟨pattern, hpattern⟩ := hfit
  unfold set HostPattern.ofText
  rw [hpattern]
  exact ⟨_, rfl⟩

namespace Options

variable {options : Options} {engine : Engine} {files : FileSource} {draft next : Draft}

theorem backend_of_applyFallback (h : (options.applyFallback engine files draft).run.value = .ok next) :
    next.backend engine = draft.backend engine := by
  obtain ⟨_, fallback, _, rfl⟩ := applyFallback_eq_ok_iff.mp h
  rfl

theorem backend_of_foldlM_applyIdentity {arguments : List IdentityArgument}
    (h : (arguments.foldlM (applyIdentity engine files) draft).run.value = .ok next) :
    next.backend engine = draft.backend engine := by
  obtain ⟨entries, _, rfl⟩ := foldlM_applyIdentity_eq_ok_iff.mp h
  rfl

theorem error?_applyFallback (options : Options) (draft : Draft) :
    (options.applyFallback engine files draft).error? =
      firstFailure? engine files (draft.backend engine)
        (.pairPaths options.keyPath options.certPath :: options.fallbackPaths?.toList.map .loadCredential) := by
  unfold applyFallback fallbackPaths?
  cases options.keyPath with
  | none => cases options.certPath <;> rfl
  | some keyPath =>
    cases options.certPath with
    | none => rfl
    | some certPath =>
      refine (Attempt.error?_bind_pure (files.loadCredential engine (draft.backend engine) keyPath certPath) _).trans ?_
      show _ = firstFailure? engine files (draft.backend engine) [.loadCredential (keyPath, certPath)]
      rw [firstFailure?_singleton]
      rfl

theorem error?_applyIdentity {argument : IdentityArgument}
    (hfit : ∃ pattern, HostPattern.ofText? argument.host = some pattern) :
    (applyIdentity engine files draft argument).error? =
      ApplyStep.failure? engine files (draft.backend engine) (.loadCredential argument.paths) := by
  have hset : ∀ credential,
      (Attempt.ofExcept ((draft.set argument.host credential).mapError LoadError.config)).error? = none := by
    intro credential
    obtain ⟨next, hnext⟩ := Draft.exists_set_eq_ok hfit draft credential
    exact Attempt.error?_eq_none_iff.mpr
      ⟨next, Attempt.value_ofExcept_eq_ok_iff.mpr (mapError_eq_ok_iff.mpr hnext)⟩
  rw [applyIdentity, Attempt.error?_bind fun credential _ => hset credential, Option.or_none]
  rfl

/-- Each load is asked of the files and the backend, so the draft that grows on the way has no part in how
    the loads of all identities end. -/
theorem error?_foldlM_applyIdentity {arguments : List IdentityArgument}
    (hfit : ∀ argument ∈ arguments, ∃ pattern, HostPattern.ofText? argument.host = some pattern) :
    (arguments.foldlM (applyIdentity engine files) draft).error? =
      firstFailure? engine files (draft.backend engine)
        (arguments.map fun argument => .loadCredential argument.paths) := by
  induction arguments generalizing draft with
  | nil => rfl
  | cons argument rest ih =>
    have hrest : ∀ mid, (applyIdentity engine files draft argument).run.value = .ok mid →
        (rest.foldlM (applyIdentity engine files) mid).error? =
          firstFailure? engine files (draft.backend engine)
            (rest.map fun argument => .loadCredential argument.paths) := by
      intro mid hmid
      obtain ⟨entry, _, rfl⟩ := applyIdentity_eq_ok_iff.mp hmid
      exact ih fun argument hargument => hfit argument (List.mem_cons_of_mem _ hargument)
    rw [List.foldlM_cons, Attempt.error?_bind hrest, error?_applyIdentity (hfit argument List.mem_cons_self),
      List.map_cons, firstFailure?_cons]

theorem error?_applyAnchors (options : Options) (engine : Engine) :
    (options.applyAnchors files draft).error? =
      firstFailure? engine files (draft.backend engine) (options.anchorsPath.toList.map .loadAnchors) := by
  unfold applyAnchors
  cases options.anchorsPath with
  | none => rfl
  | some path =>
    rw [Attempt.error?_bind_pure, Option.toList_some, List.map_singleton, firstFailure?_singleton]
    rfl

/-- **Applying options ends with the first failure among their steps.** -/
theorem error?_apply
    (hfit : ∀ argument ∈ options.identities, ∃ pattern, HostPattern.ofText? argument.host = some pattern) :
    (options.apply engine files draft).error? = firstFailure? engine files (draft.backend engine) options.steps := by
  rw [steps, firstFailure?_append, firstFailure?_append, ← error?_applyFallback options draft, Option.or_assoc]
  refine Attempt.error?_bind fun first hfirst => ?_
  rw [← backend_of_applyFallback hfirst, ← error?_foldlM_applyIdentity hfit]
  refine Attempt.error?_bind fun second hsecond => ?_
  rw [error?_applyAnchors options engine, backend_of_foldlM_applyIdentity hsecond]

/-- No step of options that any program takes has a part for the draft in its failure. -/
theorem isOfFiles_of_firstFailure? {backend : Backend} {error : LoadError}
    (h : firstFailure? engine files backend options.steps = some error) : error.IsOfFiles := by
  obtain ⟨step, hstep, hfailure⟩ := List.exists_of_findSome?_eq_some h
  simp only [steps, List.cons_append, List.mem_cons, List.mem_append, List.mem_map] at hstep
  rcases hstep with rfl | (⟨paths, _, rfl⟩ | ⟨argument, _, rfl⟩) | ⟨path, _, rfl⟩
  · rw [ApplyStep.failure?] at hfailure
    split at hfailure <;> cases hfailure
    exact nofun
  · exact FileSource.onlyFailsWith_loadCredential _ _ _ (Attempt.error?_eq_some_iff.mp hfailure)
  · exact FileSource.onlyFailsWith_loadCredential _ _ _ (Attempt.error?_eq_some_iff.mp hfailure)
  · exact FileSource.onlyFailsWith_loadCertificates _ _ (Attempt.error?_eq_some_iff.mp hfailure)

/-- Where only one path of the fallback is given, nothing else is looked at. -/
theorem run_apply_of_unpaired (h : options.keyPath.isSome ≠ options.certPath.isSome) :
    (options.apply engine files draft).run = ⟨[], .error .incompleteKeyPair⟩ := by
  have hfallback : (options.applyFallback engine files draft).run = ⟨[], .error .incompleteKeyPair⟩ := by
    revert h
    unfold applyFallback
    cases options.keyPath with
    | none =>
      cases options.certPath with
      | none => exact fun h => absurd rfl h
      | some certPath => exact fun _ => rfl
    | some keyPath =>
      cases options.certPath with
      | none => exact fun _ => rfl
      | some certPath => exact fun h => absurd rfl h
  exact Attempt.run_bind_of_error hfallback

end Options

/-! ## Exemptions -/

namespace ClientOptions

variable {options : ClientOptions} {engine : Engine} {files : FileSource} {backend : Backend}

theorem firstFailure?_singleHost (hosts : List String) :
    firstFailure? engine files backend (hosts.map .singleHost) =
      (Exemption.firstUnfit? hosts).map fun host => .config (.invalidHost host) := by
  induction hosts with
  | nil => rfl
  | cons host rest ih =>
    rw [List.map_cons, firstFailure?_cons, ih, ApplyStep.failure?, Exemption.firstUnfit?, Exemption.firstUnfit?,
      List.find?_cons]
    cases HostPattern.isSingleHost host <;> rfl

/-- The exemption that the options ask for. -/
def exemption (options : ClientOptions) : Except ConfigError Exemption := do
  let exemption ← if options.exemptsAll then Exemption.nobody.exemptAll else .ok .nobody
  if options.exemptHosts = [] then .ok exemption else exemption.exemptHosts options.exemptHosts

/-- **The kinds of exemption are compared before any host is looked at.** -/
theorem error?_exemption (options : ClientOptions) :
    (Attempt.ofExcept (options.exemption.mapError LoadError.config)).error? =
      firstFailure? engine files backend
        (.oneKind options.exemptsAll options.exemptHosts :: options.exemptHosts.map .singleHost) := by
  rw [firstFailure?_cons, firstFailure?_singleHost, ApplyStep.failure?]
  by_cases hnil : options.exemptHosts = []
  · have hexemption : ∃ exemption, options.exemption = .ok exemption := by
      unfold exemption
      simp only [if_pos hnil]
      cases options.exemptsAll <;> exact ⟨_, rfl⟩
    obtain ⟨exemption, hexemption⟩ := hexemption
    rw [hexemption, hnil, if_neg fun h => h.2 rfl]
    rfl
  · have hexemption : options.exemption =
        if options.exemptsAll then .error .verificationConflict
        else Exemption.nobody.exemptHosts options.exemptHosts := by
      unfold exemption
      simp only [if_neg hnil]
      cases options.exemptsAll <;> rfl
    have hlisted := Exemption.exemptHosts_eq (show Exemption.nobody ≠ .everybody from nofun)
      options.exemptHosts
    rw [hexemption, hlisted]
    cases options.exemptsAll with
    | true =>
      rw [if_pos (show true = true ∧ options.exemptHosts ≠ [] from ⟨rfl, hnil⟩)]
      rfl
    | false =>
      rw [if_neg fun h : false = true ∧ options.exemptHosts ≠ [] => nomatch h.1]
      cases Exemption.firstUnfit? options.exemptHosts <;> rfl

theorem error?_clientDraft
    (hfit : ∀ argument ∈ options.common.identities,
      ∃ pattern, HostPattern.ofText? argument.host = some pattern) :
    (options.clientDraft engine files).error? = firstFailure? engine files engine.defaultBackend options.steps := by
  rw [steps, firstFailure?_append, clientDraft]
  have happly : (options.common.apply engine files .empty).error? =
      firstFailure? engine files engine.defaultBackend options.common.steps := Options.error?_apply hfit
  rw [← happly]
  refine Attempt.error?_bind fun draft _ => ?_
  rw [← error?_exemption]
  exact Attempt.error?_bind_pure _ _

end ClientOptions

/-! ## Words -/

namespace AnyDraft

variable {any : AnyDraft} {engine : Engine} {files : FileSource} {options : Options}

theorem error?_applyOptions
    (hfit : ∀ argument ∈ options.identities, ∃ pattern, HostPattern.ofText? argument.host = some pattern) :
    (any.applyOptions engine files options).error? =
      firstFailure? engine files (any.common.backend engine) options.steps := by
  cases any with
  | server draft | client draft =>
    rw [applyOptions, Attempt.error?_bind_pure]
    exact Options.error?_apply hfit

theorem run_applyOptions_of_unpaired (h : options.keyPath.isSome ≠ options.certPath.isSome) :
    (any.applyOptions engine files options).run = ⟨[], .error .incompleteKeyPair⟩ := by
  cases any with
  | server draft | client draft => exact Attempt.run_bind_of_error (Options.run_apply_of_unpaired h)

end AnyDraft

/-- **Options end at the first step that fails.** Let words be read to the end, as those of a server or of a
    client, by any reader that takes the values they give. With every engine and all files, whatever they hold and
    however they are read,

    * the identities of the options are what the values of theirs stand for, in the order of the words;
    * applying the options to a draft, of any state, fails exactly as the first of their steps that fails, and
      succeeds exactly if no step fails;
    * describing a client's draft does so with the steps of a client;
    * where only one path of the fallback is given, this is the error and nothing has been reported, so it does
      not matter which files there are;
    * the host of an identity is never refused, by no draft and with no credential, and no failure of applying
      the options comes from the draft. -/
theorem ends_at_first_failure {reader : WordReader} (hreader : reader.TakesValues) {role : Role}
    {words : List String} {parsed : ClientOptions} (hwords : reader.read role words = .ok parsed)
    (engine : Engine) (files : FileSource) (any : AnyDraft) :
    let applied := any.applyOptions engine files parsed.common
    let backend := any.common.backend engine
    let described := parsed.clientDraft engine files
    parsed.common.GivenBy (reader.given role words) ∧
      ((∀ error, applied.run.value = .error error ↔
          firstFailure? engine files backend parsed.common.steps = some error) ∧
        ((∃ next, applied.run.value = .ok next) ↔
          ∀ step ∈ parsed.common.steps, step.failure? engine files backend = none)) ∧
      ((∀ error, described.run.value = .error error ↔
          firstFailure? engine files engine.defaultBackend parsed.steps = some error) ∧
        ((∃ client, described.run.value = .ok client) ↔
          ∀ step ∈ parsed.steps, step.failure? engine files engine.defaultBackend = none)) ∧
      (parsed.common.keyPath.isSome ≠ parsed.common.certPath.isSome →
        applied.run = ⟨[], .error .incompleteKeyPair⟩ ∧ described.run = ⟨[], .error .incompleteKeyPair⟩) ∧
      (∀ argument ∈ parsed.common.identities, ∀ (draft : Draft) (credential : Credential),
        ∃ next, draft.set argument.host credential = .ok next) ∧
      ∀ cause, applied.run.value ≠ .error (.config cause) := by
  intro applied backend described
  have hgiven := hreader.givenBy hwords
  have hfit := hgiven.exists_pattern
  have happlied : applied.error? = firstFailure? engine files backend parsed.common.steps :=
    AnyDraft.error?_applyOptions hfit
  have hdescribed : described.error? = firstFailure? engine files engine.defaultBackend parsed.steps :=
    ClientOptions.error?_clientDraft hfit
  refine ⟨hgiven, ⟨?_, ?_⟩, ⟨?_, ?_⟩, ?_, ?_, ?_⟩
  · intro error
    rw [← happlied, Attempt.error?_eq_some_iff]
  · rw [← firstFailure?_eq_none_iff, ← happlied, Attempt.error?_eq_none_iff]
  · intro error
    rw [← hdescribed, Attempt.error?_eq_some_iff]
  · rw [← firstFailure?_eq_none_iff, ← hdescribed, Attempt.error?_eq_none_iff]
  · intro hunpaired
    exact ⟨AnyDraft.run_applyOptions_of_unpaired hunpaired,
      Attempt.run_bind_of_error (Options.run_apply_of_unpaired hunpaired)⟩
  · intro argument hargument draft credential
    exact Draft.exists_set_eq_ok (hfit argument hargument) draft credential
  · intro cause hcause
    have hfirst := happlied.symm.trans (Attempt.error?_eq_some_iff.mpr hcause)
    exact Options.isOfFiles_of_firstFailure? hfirst cause rfl

/-- A client's words name an identity for a host with capitals and a last dot, and ask for both kinds of
    exemption, one with a text that is no single host. The identity is loaded and registered; then it is the
    two kinds that are refused, not the text. -/
theorem conflict_found_before_unfit_host :
    let engine := Catalogue.engine [⟨"own", ⟨[1]⟩, .ecdsa, [⟨.pkcs8, [2]⟩], [], "own", false, 0, 0⟩]
    let files := Directory.source [("key", Text.encode (Pem.sectionText "PRIVATE KEY" ["Ag=="])),
      ("cert", Text.encode (Pem.sectionText "CERTIFICATE" ["AQ=="]))]
    let words := ["--tls-sni-identity=A.com.=key,cert", "--tls-no-verify", "--tls-no-verify-hosts=*.b.com"]
    ∃ parsed, OptionReader.words.read .client words = .ok parsed ∧
      (∃ next, ((AnyDraft.empty .client).applyOptions engine files parsed.common).run.value = .ok next) ∧
      (parsed.clientDraft engine files).run.value = .error (.config .verificationConflict) := by
  intro engine files words
  have hwords : OptionReader.words.read .client words = .ok
      { common := { identities := [⟨"A.com.", "key", "cert"⟩] }
        exemptsAll := true
        exemptHosts := ["*.b.com"] } := by
    decide +kernel
  obtain ⟨_, ⟨_, hsucceeds⟩, ⟨hfails, _⟩, _⟩ :=
    ends_at_first_failure OptionReader.takesValues_words hwords engine files (.empty .client)
  have hload : ApplyStep.failure? engine files engine.defaultBackend (.loadCredential ("key", "cert")) = none := rfl
  refine ⟨_, hwords, hsucceeds.mpr ?_, (hfails _).mpr ?_⟩
  · intro step hstep
    rcases List.mem_cons.mp hstep with rfl | hstep
    · rfl
    · obtain rfl := List.mem_singleton.mp hstep
      exact hload
  · rfl

end TlsIdentity
