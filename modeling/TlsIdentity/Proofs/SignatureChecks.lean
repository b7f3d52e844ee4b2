import TlsIdentity.Proofs.BypassScope

/-!
# Signatures are always checked

A trust policy chooses among three verifiers: the one that asks the engine about every chain, the one that
asks about none, and the one that spares chosen hosts. What they have in common is the check of handshake
signatures, which each leaves to the engine with the profile's backend. So of all that a run of calls
says only the backend matters to signatures; and where a chain is believed unseen, the signature alone
decides whether the server is accepted.
-/

namespace TlsIdentity

/-! ## The verifiers of a policy -/

namespace TrustPolicy

variable (policy : TrustPolicy) (engine : Engine) (backend : Backend) (anchors : List TrustAnchor)

theorem verifySignature_verifierOver (question : SignatureQuestion) :
    (policy.verifierOver engine backend anchors).verifySignature question =
      engine.checkSignature backend question := by
  cases policy with
  | verifyAll => rfl
  | skipAll => rfl
  | skipHosts hosts =>
    -- a verifier that spares hosts hands every signature to the one inside it
    show (engine.chainVerifier backend anchors).verifySignature question = _
    rfl

theorem schemes_verifierOver :
    (policy.verifierOver engine backend anchors).schemes = engine.schemes backend := by
  cases policy <;> rfl

end TrustPolicy

/-! ## Accepting a server -/

/-- The server's chain and its signature are both accepted. -/
def ServerVerifier.Accepts {ε : Type} (verifier : ServerVerifier ε) (chain : ChainQuestion)
    (signature : SignatureQuestion) : Prop :=
  (verifier.verifyChain chain).run.value = .ok () ∧ verifier.verifySignature signature = .ok ()

namespace Profile.BuiltBy

variable {profile : Profile} {engine : Engine} {calls : List ClientCall}

theorem verifySignature_eq (h : profile.BuiltBy engine calls) (question : SignatureQuestion) :
    profile.verifier.verifySignature question = engine.checkSignature (backendOf engine calls) question := by
  rw [h.verifier_eq, TrustPolicy.verifySignature_verifierOver]

theorem schemes_eq (h : profile.BuiltBy engine calls) :
    profile.verifier.schemes = engine.schemes (backendOf engine calls) := by
  rw [h.verifier_eq, TrustPolicy.schemes_verifierOver]

/-- A peer that need not prove its name still has to prove that it holds its key. -/
theorem accepts_iff_of_exempts (h : profile.BuiltBy engine calls) {chain : ChainQuestion}
    (hexempts : profile.trust.exempts chain.peer = true) (question : SignatureQuestion) :
    profile.verifier.Accepts chain question ↔
      engine.checkSignature (backendOf engine calls) question = .ok () := by
  have hchain : (profile.verifier.verifyChain chain).run.value = .ok () := by
    rw [h.verifier_eq]
    exact TrustPolicy.verifyChain_of_exempts hexempts engine _ _
  rw [ServerVerifier.Accepts, h.verifySignature_eq]
  exact ⟨fun haccepts => haccepts.2, fun hsignature => ⟨hchain, hsignature⟩⟩

end Profile.BuiltBy

/-! ## All profiles -/

/-- **No policy skips a signature.** Profiles of one backend, built by any runs of calls on drafts of any
    kind, give the same verdict on every handshake signature of either version, which is the engine's with
    that backend, and report the same schemes. So do the configurations made of them. Where the policy
    exempts a peer from the verification of its chain, the server is accepted exactly if the engine
    accepts its signature. -/
theorem signatures_never_skipped (engine : Engine) (question : SignatureQuestion) {role otherRole : Role}
    {calls otherCalls : List ClientCall} {profile other : Profile}
    (hprofile : ((AnyDraft.ofRun role calls).build engine).run.value = .ok profile)
    (hother : ((AnyDraft.ofRun otherRole otherCalls).build engine).run.value = .ok other)
    (hbackend : backendOf engine calls = backendOf engine otherCalls) :
    profile.verifier.verifySignature question = engine.checkSignature (backendOf engine calls) question ∧
      other.verifier.verifySignature question = profile.verifier.verifySignature question ∧
      profile.verifier.schemes = engine.schemes (backendOf engine calls) ∧
      other.verifier.schemes = profile.verifier.schemes ∧
      (∀ (host : String) (config : ClientConfig), (profile.clientConfig host).run.value = .ok config →
        config.verifier.verifySignature question = engine.checkSignature (backendOf engine calls) question) ∧
      ∀ chain : ChainQuestion, profile.trust.exempts chain.peer = true →
        (profile.verifier.Accepts chain question ↔
          engine.checkSignature (backendOf engine calls) question = .ok ()) := by
  have hbuilt := AnyDraft.builtBy_of_build hprofile
  have hotherBuilt := AnyDraft.builtBy_of_build hother
  refine ⟨hbuilt.verifySignature_eq question, ?_, hbuilt.schemes_eq, ?_, ?_, ?_⟩
  · rw [hbuilt.verifySignature_eq, hotherBuilt.verifySignature_eq, hbackend]
  · rw [hbuilt.schemes_eq, hotherBuilt.schemes_eq, hbackend]
  · intro host config hconfig
    rw [Profile.verifier_of_clientConfig hconfig]
    exact hbuilt.verifySignature_eq question
  · intro chain hexempts
    exact hbuilt.accepts_iff_of_exempts hexempts question

/-- A client spares a host in another spelling, and a server's profile spares none; both refuse a signature
    by a certificate that the engine cannot read. -/
theorem spared_host_signature_refused :
    let calls : List ClientCall :=
      [.exemption (.exemptHosts ["A.com."]), .common (.useBackend .only12)]
    let otherCalls : List ClientCall :=
      [.common (.useBackend .standard), .common (.useBackend .only12)]
    let question : SignatureQuestion := ⟨.v12, [1], ⟨[2]⟩, ⟨⟨"key", some .ecdsa⟩, [1]⟩⟩
    ∃ profile other,
      ((AnyDraft.ofRun .client calls).build (Catalogue.engine [])).run.value = .ok profile ∧
      ((AnyDraft.ofRun .server otherCalls).build (Catalogue.engine [])).run.value = .ok other ∧
      (profile.verifier.verifyChain (.about (.dns "a.com"))).run.value = .ok () ∧
      profile.verifier.verifySignature question = .error .badEncoding ∧
      other.verifier.verifySignature question = .error .badEncoding := by
  intro calls otherCalls question
  have haccepted : ∀ certificate ∈ trustedBy [], (Catalogue.engine []).checkAnchor certificate = .ok () :=
    fun _ h => absurd h List.not_mem_nil
  have hprofile := (AnyDraft.build_eq_ok_iff .client calls _).mpr ⟨haccepted, rfl⟩
  have hother := (AnyDraft.build_eq_ok_iff .server otherCalls _).mpr ⟨haccepted, rfl⟩
  obtain ⟨hverdict, hsame, _⟩ :=
    signatures_never_skipped (Catalogue.engine []) question hprofile hother rfl
  refine ⟨_, _, hprofile, hother, ?_, hverdict, hsame.trans hverdict⟩
  rw [(AnyDraft.builtBy_of_build hprofile).verifier_eq]
  exact TrustPolicy.verifyChain_of_exempts (by decide) _ _ _

end TlsIdentity
