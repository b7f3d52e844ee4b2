import TlsIdentity.Proofs.FirstFailure
import TlsIdentity.Proofs.TableListing

/-!
# Credentials that belong together

A credential is loaded from two files in eight checks, three on either file and two on what was found in them.
Each check says by itself how it fails (`CredentialCheck.failure?`), whatever the others do, and loading ends as
the first of them that fails (`error?_loadCredential`). If none fails, the credential has a leaf that its key
belongs to. Options put nothing else into a draft, so a credential that is found in a table without this was put
there by a call.
-/

namespace TlsIdentity

/-! ## Checks -/

/-- A thing that is looked at when a credential is loaded. -/
inductive CredentialCheck where
  /-- The key's file can be read. -/
  | keyReadable
  /-- The key's file is a sequence of sections, up to its first key. -/
  | keyDecoded
  /-- The key's file has a key. -/
  | keyFound
  /-- The certificates' file can be read. -/
  | chainReadable
  /-- The certificates' file is a sequence of sections. -/
  | chainDecoded
  /-- The certificates' file has a certificate. -/
  | chainFound
  /-- The engine takes the key. -/
  | keyLoaded
  /-- The key is that of the first certificate. -/
  | keyMatched
  deriving DecidableEq, Repr

namespace FileSource

/-- The first private key in the file at a path, if there is one. -/
def key? (files : FileSource) (path : String) : Option PrivateKey :=
  (files.read path).toOption.bind fun contents => (files.privateKey contents).toOption.join

/-- The first certificate in the file at a path, if there is one. -/
def leaf? (files : FileSource) (path : String) : Option Certificate :=
  (files.read path).toOption.bind fun contents => (files.certificates contents).toOption.bind List.head?

variable {files : FileSource} {path : String}

theorem key?_of_readPrivateKey {key : PrivateKey} (h : files.readPrivateKey path = .ok key) :
    files.key? path = some key := by
  obtain ⟨contents, hread, hkey⟩ := readPrivateKey_eq_ok_iff.mp h
  rw [key?, hread]
  show (files.privateKey contents).toOption.join = some key
  rw [hkey]
  rfl

theorem leaf?_of_readCertificates {leaf : Certificate} {others : List Certificate}
    (h : files.readCertificates path = .ok (leaf :: others)) : files.leaf? path = some leaf := by
  obtain ⟨contents, hread, hchain⟩ := readCertificates_eq_ok_iff.mp h
  rw [leaf?, hread]
  show (files.certificates contents).toOption.bind List.head? = some leaf
  rw [hchain]
  rfl

end FileSource

namespace CredentialCheck

/-- The checks on the key's file. -/
def onKey : List CredentialCheck := [.keyReadable, .keyDecoded, .keyFound]

/-- The checks on the certificates' file. -/
def onChain : List CredentialCheck := [.chainReadable, .chainDecoded, .chainFound]

/-- The checks on what was found. -/
def onBoth : List CredentialCheck := [.keyLoaded, .keyMatched]

/-- All checks, in the order in which they are made. -/
def inOrder : List CredentialCheck := onKey ++ onChain ++ onBoth

/-- How a check fails, if it does. One for which there is nothing to look at does not. -/
def failure? (engine : Engine) (files : FileSource) (backend : Backend) (keyPath certPath : String) :
    CredentialCheck → Option LoadError
  | .keyReadable => (errorOf? (files.read keyPath)).map .unreadable
  | .keyDecoded => (files.read keyPath).toOption.bind fun contents =>
      (errorOf? (files.privateKey contents)).map .malformed
  | .keyFound => (files.read keyPath).toOption.bind fun contents =>
      if files.privateKey contents = .ok none then some (.noPrivateKey keyPath) else none
  | .chainReadable => (errorOf? (files.read certPath)).map .unreadable
  | .chainDecoded => (files.read certPath).toOption.bind fun contents =>
      (errorOf? (files.certificates contents)).map .malformed
  | .chainFound => (files.read certPath).toOption.bind fun contents =>
      if files.certificates contents = .ok [] then some (.noCertificates certPath) else none
  | .keyLoaded => (files.key? keyPath).bind fun key => (errorOf? (engine.loadKey backend key)).map .engine
  | .keyMatched => (files.key? keyPath).bind fun key => (engine.loadKey backend key).toOption.bind fun loaded =>
      (files.leaf? certPath).bind fun leaf => (errorOf? (engine.matchKey leaf loaded)).map .engine

variable {engine : Engine} {files : FileSource} {backend : Backend} {keyPath certPath : String}

theorem findSome?_onKey :
    onKey.findSome? (failure? engine files backend keyPath certPath) = errorOf? (files.readPrivateKey keyPath) := by
  unfold onKey FileSource.readPrivateKey
  simp only [List.findSome?_cons, List.findSome?_nil, failure?]
  cases files.read keyPath with
  | error error => rfl
  | ok contents =>
    simp only [Except.toOption, Option.bind_some]
    show _ = errorOf? ((files.privateKey contents).mapError LoadError.malformed >>= _)
    cases files.privateKey contents with
    | error error => rfl
    | ok key? => cases key? <;> rfl

theorem findSome?_onChain :
    onChain.findSome? (failure? engine files backend keyPath certPath) =
      match files.readCertificates certPath with
      | .error error => some error
      | .ok [] => some (.noCertificates certPath)
      | .ok (_ :: _) => none := by
  unfold onChain FileSource.readCertificates
  simp only [List.findSome?_cons, List.findSome?_nil, failure?]
  cases files.read certPath with
  | error error => rfl
  | ok contents =>
    simp only [Except.toOption, Option.bind_some]
    show _ = match (files.certificates contents).mapError LoadError.malformed with
      | .error error => some error
      | .ok [] => some (.noCertificates certPath)
      | .ok (_ :: _) => none
    cases files.certificates contents with
    | error error => rfl
    | ok certificates => cases certificates <;> rfl

theorem findSome?_onBoth {key : PrivateKey} {leaf : Certificate} (hkey : files.key? keyPath = some key)
    (hleaf : files.leaf? certPath = some leaf) (others : List Certificate) :
    onBoth.findSome? (failure? engine files backend keyPath certPath) =
      errorOf? (FileSource.joinCredential engine backend key leaf others) := by
  unfold onBoth FileSource.joinCredential
  simp only [List.findSome?_cons, List.findSome?_nil, failure?, hkey, hleaf, Option.bind_some]
  cases engine.loadKey backend key with
  | error error => rfl
  | ok loaded =>
    show _ = errorOf? ((engine.matchKey leaf loaded).mapError LoadError.engine >>= _)
    simp only [Except.toOption, Option.bind_some]
    cases engine.matchKey leaf loaded <;> rfl

end CredentialCheck

/-! ## Loading -/

namespace FileSource

variable {engine : Engine} {files : FileSource} {backend : Backend} {keyPath certPath : String}

theorem joinCredential_eq_ok_iff {key : PrivateKey} {leaf : Certificate} {others : List Certificate}
    {credential : Credential} :
    joinCredential engine backend key leaf others = .ok credential ↔
      ∃ loaded, engine.loadKey backend key = .ok loaded ∧ engine.matchKey leaf loaded = .ok () ∧
        credential = { label := none, chain := leaf :: others, key := loaded } := by
  unfold joinCredential
  simp only [bind_eq_ok_iff, mapError_eq_ok_iff]
  refine exists_congr fun loaded => and_congr_right fun _ => ?_
  constructor
  · rintro ⟨⟨⟩, hmatch, ⟨⟩⟩
    exact ⟨hmatch, rfl⟩
  · rintro ⟨hmatch, rfl⟩
    exact ⟨(), hmatch, rfl⟩

/-- **Loading ends as the first check that fails**, and succeeds if none does. -/
theorem error?_loadCredential (engine : Engine) (files : FileSource) (backend : Backend)
    (keyPath certPath : String) :
    (files.loadCredential engine backend keyPath certPath).error? =
      CredentialCheck.inOrder.findSome? (·.failure? engine files backend keyPath certPath) := by
  rw [CredentialCheck.inOrder, List.findSome?_append, List.findSome?_append, CredentialCheck.findSome?_onKey,
    Option.or_assoc, ← Attempt.error?_ofExcept]
  refine Attempt.error?_bind fun key hkey => ?_
  rw [CredentialCheck.findSome?_onChain]
  have hvalue := value_loadCertificates files certPath
  cases hread : files.readCertificates certPath with
  | error error =>
    rw [hread] at hvalue
    exact Attempt.error?_bind_of_error hvalue
  | ok certificates =>
    rw [hread] at hvalue
    rw [Attempt.error?_bind_of_ok hvalue]
    cases certificates with
    | nil => rfl
    | cons leaf others =>
      -- here the key and the leaf are those that the checks on both look at
      rw [Option.none_or, CredentialCheck.findSome?_onBoth (key?_of_readPrivateKey hkey)
        (leaf?_of_readCertificates hread) others, ← Attempt.error?_ofExcept]
      have hreport : ∀ credential : Credential, (do
          Attempt.report (.credentialLoaded keyPath certPath)
          return credential : Attempt LoadError Credential).error? = none := fun _ => rfl
      exact (Attempt.error?_bind fun credential _ => hreport credential).trans Option.or_none

/-- **What a credential is loaded from.** -/
theorem makes_iff {paths : String × String} {credential : Credential} :
    files.Makes engine backend paths credential ↔
      ∃ key leaf others, files.readPrivateKey paths.1 = .ok key ∧
        files.readCertificates paths.2 = .ok (leaf :: others) ∧
        joinCredential engine backend key leaf others = .ok credential := by
  unfold Makes loadCredential
  simp only [Attempt.value_bind_eq_ok_iff, Attempt.value_ofExcept_eq_ok_iff, value_loadCertificates]
  refine exists_congr fun key => ?_
  constructor
  · rintro ⟨hkey, certificates, hread, hjoin⟩
    cases certificates with
    | nil => cases hjoin
    | cons leaf others =>
      obtain ⟨own, hown, hreport⟩ := Attempt.value_bind_eq_ok_iff.mp hjoin
      obtain rfl := Attempt.value_pure_eq_ok_iff.mp hreport
      exact ⟨leaf, others, hkey, hread, hown⟩
  · rintro ⟨leaf, others, hkey, hread, hjoin⟩
    exact ⟨hkey, leaf :: others, hread, Attempt.value_bind_eq_ok_iff.mpr ⟨credential, hjoin, rfl⟩⟩

end FileSource

/-! ## Credentials that belong together -/

/-- The chain has a leaf, and the key is the leaf's. -/
def Credential.IsConsistent (credential : Credential) (engine : Engine) : Prop :=
  ∃ leaf others, credential.chain = leaf :: others ∧ engine.matchKey leaf credential.key = .ok ()

/-- Files make only what belongs together. -/
theorem FileSource.Makes.isConsistent {files : FileSource} {engine : Engine} {backend : Backend}
    {paths : String × String} {credential : Credential} (h : files.Makes engine backend paths credential) :
    credential.IsConsistent engine := by
  obtain ⟨key, leaf, others, _, _, hjoin⟩ := makes_iff.mp h
  obtain ⟨loaded, _, hmatch, rfl⟩ := joinCredential_eq_ok_iff.mp hjoin
  exact ⟨leaf, others, rfl, hmatch⟩

/-- All that options load belongs together. -/
theorem Options.Loads.isConsistent {options : Options} {engine : Engine} {files : FileSource} {backend : Backend}
    {loaded : Loaded} (h : options.Loads engine files backend loaded) :
    ∀ entry ∈ loaded.history, entry.2.IsConsistent engine := by
  intro entry hentry
  rcases List.mem_append.mp hentry with hfallback | hlisted
  · obtain ⟨credential, hcredential, rfl⟩ := List.mem_map.mp hfallback
    have hrel := h.fallback
    rw [Option.mem_toList.mp hcredential] at hrel
    obtain ⟨_, _, hmakes⟩ := exists_of_rel_some hrel
    exact hmakes.isConsistent
  · obtain ⟨_, hloads⟩ := exists_forall₂_iff.mp ⟨_, h.entries.flip⟩ entry hlisted
    exact hloads.credential.isConsistent

/-! ## Tables -/

/-- What a table has for a pattern was there before the registrations or is one of them. -/
theorem IdentityTable.identityOf?_foldl_insert {α : Type} {history : History α} {table : IdentityTable α}
    {pattern : HostPattern} {identity : α}
    (h : (history.foldl (fun table entry => table.insert entry.1 entry.2) table).identityOf? pattern =
      some identity) :
    table.identityOf? pattern = some identity ∨ (pattern, identity) ∈ history := by
  induction history generalizing table with
  | nil => exact .inl h
  | cons entry rest ih =>
    rcases ih h with hfirst | hlater
    · rw [identityOf?_insert] at hfirst
      split at hfirst
      · next heq =>
        cases hfirst
        exact .inr (heq ▸ List.mem_cons_self)
      · exact .inl hfirst
    · exact .inr (List.mem_cons_of_mem _ hlater)

/-- The credential that an action registers by a call, and the pattern that it is registered for. -/
def DraftAction.registration? : DraftAction → Option (HostPattern × Credential)
  | .call (.common own) => own.registration?
  | .call (.exemption _) => none
  | .apply _ _ => none

namespace AnyDraft

variable {engine : Engine} {any next : AnyDraft} {action : DraftAction} {actions : List DraftAction}
  {pattern : HostPattern} {credential : Credential}

/-- The credential that a draft has for a pattern itself. -/
def identityOf? (any : AnyDraft) (pattern : HostPattern) : Option Credential :=
  any.common.identities.identityOf? pattern

/-- What an action leaves for a pattern was there before, or belongs together, or was given by a call. -/
theorem identityOf?_of_act (h : any.act engine action = .ok next)
    (hfound : next.identityOf? pattern = some credential) :
    any.identityOf? pattern = some credential ∨ credential.IsConsistent engine ∨
      action.registration? = some (pattern, credential) := by
  unfold identityOf? at hfound ⊢
  obtain ⟨call, rfl, _, hnext⟩ | ⟨call, rfl, hnext⟩ | ⟨files, options, loaded, rfl, hloads, hnext⟩ :=
    common_of_act h
  · rw [hnext, Draft.after] at hfound
    show _ ∨ _ ∨ call.registration? = _
    cases hregistration : call.registration? with
    | none =>
      rw [hregistration] at hfound
      exact .inl hfound
    | some entry =>
      rw [hregistration, Option.elim_some, IdentityTable.identityOf?_insert] at hfound
      split at hfound
      · next hpattern =>
        cases hpattern
        cases hfound
        exact .inr (.inr rfl)
      · exact .inl hfound
  · rw [hnext] at hfound
    exact .inl hfound
  · rw [hnext] at hfound
    rcases IdentityTable.identityOf?_foldl_insert hfound with hbefore | hloaded
    · exact .inl hbefore
    · exact .inr (.inl (hloads.isConsistent _ hloaded))

/-- **What a run leaves for a pattern** was there before, or belongs together, or was given by one of its
    calls. -/
theorem identityOf?_runFrom (hfound : (runFrom (act engine) any actions).identityOf? pattern = some credential) :
    any.identityOf? pattern = some credential ∨ credential.IsConsistent engine ∨
      ∃ action ∈ actions, action.registration? = some (pattern, credential) := by
  induction actions generalizing any with
  | nil => exact .inl hfound
  | cons action rest ih =>
    cases hact : any.act engine action with
    | error error =>
      rw [runFrom_cons_error hact] at hfound
      rcases ih hfound with hbefore | hconsistent | ⟨own, hmem, hgiven⟩
      · exact .inl hbefore
      · exact .inr (.inl hconsistent)
      · exact .inr (.inr ⟨own, List.mem_cons_of_mem _ hmem, hgiven⟩)
    | ok next =>
      rw [runFrom_cons_ok hact] at hfound
      rcases ih hfound with hnext | hconsistent | ⟨own, hmem, hgiven⟩
      · -- it was there after the first action, which kept it or put it there
        rcases identityOf?_of_act hact hnext with hbefore | hconsistent | hgiven
        · exact .inl hbefore
        · exact .inr (.inl hconsistent)
        · exact .inr (.inr ⟨action, List.mem_cons_self, hgiven⟩)
      · exact .inr (.inl hconsistent)
      · exact .inr (.inr ⟨own, List.mem_cons_of_mem _ hmem, hgiven⟩)

end AnyDraft

/-- **Only credentials that belong together come from files.** For every engine:

    * from a file with a key and one with certificates, read with whatever backend, there comes a credential exactly
      if both can be read, the one has a key and the other is all sections with a certificate among them, the
      engine takes the key, and the key is that of the first certificate; the credential is then this key with all
      certificates in their order;
    * otherwise the error is that of the first check that fails: on the key's file, then on the other, then on what
      was found in them;
    * so to apply options to a draft is, for its identities, to register credentials that belong together;
    * and whatever is done to a draft, each credential in its table, and in that of a profile made from it, belongs
      together or was registered by a call. -/
theorem only_consistent_credentials_loaded (engine : Engine) :
    (∀ (files : FileSource) (backend : Backend) (keyPath certPath : String),
      let outcome := (files.loadCredential engine backend keyPath certPath).run.value
      (∀ credential, outcome = .ok credential ↔
        ∃ keyContents key chainContents leaf others loaded,
          files.read keyPath = .ok keyContents ∧ files.privateKey keyContents = .ok (some key) ∧
          files.read certPath = .ok chainContents ∧ files.certificates chainContents = .ok (leaf :: others) ∧
          engine.loadKey backend key = .ok loaded ∧ engine.matchKey leaf loaded = .ok () ∧
          credential = { label := none, chain := leaf :: others, key := loaded }) ∧
      ∀ error, outcome = .error error ↔
        CredentialCheck.inOrder.findSome? (·.failure? engine files backend keyPath certPath) = some error) ∧
    (∀ (files : FileSource) (options : Options) (draft next : Draft),
      (options.apply engine files draft).run.value = .ok next →
        ∃ history, next.identities = (draft.registering history).identities ∧
          ∀ entry ∈ history, entry.2.IsConsistent engine) ∧
    ∀ (role : Role) (actions : List DraftAction),
      let draft := AnyDraft.ofActions engine role actions
      (∀ pattern credential, draft.identityOf? pattern = some credential →
        credential.IsConsistent engine ∨
          ∃ action ∈ actions, action.registration? = some (pattern, credential)) ∧
      ∀ profile, (draft.build engine).run.value = .ok profile → profile.identities = draft.common.identities := by
  refine ⟨fun files backend keyPath certPath => ⟨fun credential => ?_, fun error => ?_⟩, ?_, ?_⟩
  · show files.Makes engine backend (keyPath, certPath) credential ↔ _
    simp only [FileSource.makes_iff, FileSource.readPrivateKey_eq_ok_iff, FileSource.readCertificates_eq_ok_iff,
      FileSource.joinCredential_eq_ok_iff]
    constructor
    · rintro ⟨key, leaf, others, ⟨keyContents, hread, hkey⟩, ⟨chainContents, hread', hchain⟩, loaded, hjoin⟩
      exact ⟨keyContents, key, chainContents, leaf, others, loaded, hread, hkey, hread', hchain, hjoin⟩
    · rintro ⟨keyContents, key, chainContents, leaf, others, loaded, hread, hkey, hread', hchain, hjoin⟩
      exact ⟨key, leaf, others, ⟨keyContents, hread, hkey⟩, ⟨chainContents, hread', hchain⟩, loaded, hjoin⟩
  · rw [← FileSource.error?_loadCredential, Attempt.error?_eq_some_iff]
  · intro files options draft next happly
    obtain ⟨loaded, hloads, rfl⟩ := Options.apply_eq_ok_iff.mp happly
    exact ⟨loaded.history, rfl, hloads.isConsistent⟩
  · refine fun role actions => ⟨fun pattern credential hfound => ?_, fun profile hprofile => ?_⟩
    · have hempty : (AnyDraft.empty role).identityOf? pattern = none := by
        cases role <;> cases pattern <;> rfl
      rcases AnyDraft.identityOf?_runFrom hfound with hbefore | hafter
      · rw [hempty] at hbefore
        cases hbefore
      · exact hafter
    · rw [AnyDraft.build_eq_freeze] at hprofile
      obtain ⟨_, rfl⟩ := Draft.freeze_eq_ok_iff.mp hprofile
      rfl

/-- A key goes with a file of two certificates of which the first is its own, and not with a file of the other
    alone. Where both files are at fault it is the key's that is named, and a file without a key before a file that
    is missing. What options have put into a server's draft belongs together. -/
theorem key_goes_with_its_own_chain :
    let engine := Catalogue.engine [⟨"own", ⟨[1]⟩, .ecdsa, [⟨.pkcs8, [2]⟩], [], "own", false, 0, 0⟩,
      ⟨"other", ⟨[3]⟩, .ecdsa, [⟨.pkcs8, [4]⟩], [], "other", false, 0, 0⟩]
    let files := Directory.source [("key", Text.encode (Pem.sectionText "PRIVATE KEY" ["Ag=="])),
      ("chain", Text.encode (Pem.sectionText "CERTIFICATE" ["AQ=="] ++ Pem.sectionText "CERTIFICATE" ["Aw=="])),
      ("other", Text.encode (Pem.sectionText "CERTIFICATE" ["Aw=="])), ("none", [])]
    let load (keyPath certPath : String) := (files.loadCredential engine .standard keyPath certPath).run.value
    let own : Credential := { label := none, chain := [⟨[1]⟩, ⟨[3]⟩], key := ⟨"own", some .ecdsa⟩ }
    let actions : List DraftAction := [.apply files { keyPath := some "key", certPath := some "chain" }]
    load "key" "chain" = .ok own ∧ load "key" "other" = .error (.engine .keyMismatch) ∧
      load "key" "none" = .error (.noCertificates "none") ∧
      load "none" "missing" = .error (.noPrivateKey "none") ∧
      load "missing" "none" = .error (.unreadable .notFound) ∧
      (AnyDraft.ofActions engine .server actions).identityOf? .any = some own ∧ own.IsConsistent engine := by
  intro engine files load own actions
  obtain ⟨hload, _, htable⟩ := only_consistent_credentials_loaded engine
  have hfound : (AnyDraft.ofActions engine .server actions).identityOf? .any = some own := by
    decide +kernel
  refine ⟨(hload files .standard _ _).1 own |>.mpr ?_, (hload files .standard _ _).2 _ |>.mpr rfl,
    (hload files .standard _ _).2 _ |>.mpr rfl, (hload files .standard _ _).2 _ |>.mpr rfl,
    (hload files .standard _ _).2 _ |>.mpr rfl, hfound, ?_⟩
  · exact ⟨_, ⟨.pkcs8, [2]⟩, _, ⟨[1]⟩, [⟨[3]⟩], own.key, rfl, rfl, rfl, rfl, rfl, rfl, rfl⟩
  · rcases (htable .server actions).1 .any own hfound with hconsistent | ⟨action, hmem, hgiven⟩
    · exact hconsistent
    · obtain rfl := List.mem_singleton.mp hmem
      cases hgiven

end TlsIdentity
