import TlsIdentity.Proofs.Configurations
import TlsIdentity.Proofs.Exclusion
import TlsIdentity.Proofs.RunParts

/-!
# Whose chains are believed unseen

A chain is believed unseen if the profile accepts it whatever the engine says about it. For a client's
profile these are the chains of the peers that a successful call of its run exempts, and no others: every
other chain gets the engine's own judgement, by the anchors that the run chose. Profiles of other kinds
believe no chain unseen.

The way there: the run is reduced to its calls about verification (`isPart_exemption`), their outcome is
`tally`, the policy that comes of it decides by `exempts`, and the verifier does what `exempts` says.
-/

namespace TlsIdentity

/-! ## What a policy's verifier does -/

namespace TrustPolicy

/-- Whether the verifier of the policy believes the chains of `peer` unseen. -/
def exempts (policy : TrustPolicy) (peer : PeerName) : Bool :=
  match policy with
  | .verifyAll => false
  | .skipAll => true
  | .skipHosts hosts => hosts.contains peer.hostText

variable {policy : TrustPolicy} {question : ChainQuestion}

theorem verifyChain_of_exempts (h : policy.exempts question.peer = true) (engine : Engine)
    (backend : Backend) (anchors : List TrustAnchor) :
    ((policy.verifierOver engine backend anchors).verifyChain question).run.value = .ok () := by
  cases policy with
  | verifyAll => cases h
  | skipAll => rfl
  | skipHosts hosts =>
    have hmem : hosts.contains question.peer.hostText = true := h
    rw [verifierOver, ServerVerifier.sparing]
    simp only [if_pos hmem]
    rfl

theorem verifyChain_of_not_exempts (h : ¬ policy.exempts question.peer = true) (engine : Engine)
    (backend : Backend) (anchors : List TrustAnchor) :
    (policy.verifierOver engine backend anchors).verifyChain question =
      Attempt.ofExcept (engine.checkServer backend anchors question) := by
  cases policy with
  | verifyAll => rfl
  | skipAll => exact absurd rfl h
  | skipHosts hosts =>
    have hmem : ¬ hosts.contains question.peer.hostText = true := h
    rw [verifierOver, ServerVerifier.sparing]
    simp only [if_neg hmem]
    rfl

end TrustPolicy

/-! ## Believing unseen -/

/-- The question about a peer that presents an empty certificate. -/
def ChainQuestion.about (peer : PeerName) : ChainQuestion where
  leaf := ⟨[]⟩
  intermediates := []
  peer := peer
  ocsp := []
  time := 0

/-- The engine that judges servers' chains by `judge` and is the same in all else. -/
def Engine.withJudge (engine : Engine)
    (judge : Backend → List TrustAnchor → ChainQuestion → Except CertificateFault Unit) : Engine :=
  { engine with checkServer := judge }

/-- A client believes the chain of `question` unseen: its profile can be made and accepts the chain,
    however the engine judges chains. -/
def ClientDraft.BelievesUnseen (client : ClientDraft) (engine : Engine) (question : ChainQuestion) :
    Prop :=
  ∀ judge, ∃ profile, (client.build (engine.withJudge judge)).run.value = .ok profile ∧
    (profile.verifier.verifyChain question).run.value = .ok ()

/-- The profile has these anchors and leaves the chain of `question` to the engine, by them alone. -/
structure Profile.LeavesToEngine (profile : Profile) (engine : Engine) (anchors : List TrustAnchor)
    (question : ChainQuestion) : Prop where
  anchors_eq : profile.anchors = anchors
  verdict_eq : profile.verifier.verifyChain question =
    Attempt.ofExcept (engine.checkServer profile.backend anchors question)

/-- **A client believes unseen what its policy exempts.** -/
theorem ClientDraft.believesUnseen_iff {client : ClientDraft} {engine : Engine} {profile : Profile}
    (hbuild : (client.build engine).run.value = .ok profile) (question : ChainQuestion) :
    client.BelievesUnseen engine question ↔ profile.trust.exempts question.peer = true := by
  obtain ⟨haccepted, rfl⟩ := Draft.freeze_eq_ok_iff.mp hbuild
  show _ ↔ client.exemption.policy.exempts question.peer = true
  constructor
  · intro hunseen
    -- an engine that refuses every chain is enough to tell the two apart
    obtain ⟨other, hother, haccepts⟩ := hunseen fun _ _ _ => .error .other
    obtain ⟨_, rfl⟩ := Draft.freeze_eq_ok_iff.mp hother
    refine Classical.byContradiction fun hexempts => ?_
    have hjudged := TrustPolicy.verifyChain_of_not_exempts hexempts
      (engine.withJudge fun _ _ _ => .error .other) (client.common.backend (engine.withJudge fun _ _ _ => .error .other))
      (anchorsOf client.common.trusted)
    rw [Draft.frozen, hjudged] at haccepts
    cases haccepts
  · intro hexempts judge
    exact ⟨_, Draft.freeze_eq_ok_iff.mpr ⟨haccepted, rfl⟩,
      TrustPolicy.verifyChain_of_exempts hexempts _ _ _⟩

/-- A configuration has the verifier of the profile it is made of, whatever host it is for. -/
theorem Profile.verifier_of_clientConfig {profile : Profile} {host : String} {config : ClientConfig}
    (h : (profile.clientConfig host).run.value = .ok config) : config.verifier = profile.verifier := by
  obtain ⟨_, rfl⟩ := clientConfig_eq_ok_iff.mp h
  rfl

/-! ## The exemptions of a run -/

/-- One of these calls exempts `peer`: it exempts everybody, or lists a host whose canonical form is the
    text of the peer. -/
def Exempted (calls : List ClientCall) (peer : PeerName) : Prop :=
  .exemption .exemptAll ∈ calls ∨
    ∃ hosts, .exemption (.exemptHosts hosts) ∈ calls ∧
      ∃ host ∈ hosts, HostName.canonical host = peer.hostText

namespace Exemption

theorem exempts_tally_iff {calls : List ExemptionCall} {peer : PeerName} :
    (tally calls).policy.exempts peer = true ↔
      .exemptAll ∈ calls ∨ ∃ host ∈ allListed calls, HostName.canonical host = peer.hostText := by
  rw [ClientDraft.policy_tally]
  by_cases hall : .exemptAll ∈ calls
  · rw [if_pos hall]
    exact ⟨fun _ => .inl hall, fun _ => rfl⟩
  · rw [if_neg hall]
    by_cases hnil : allListed calls = []
    · rw [if_pos hnil, hnil]
      simp [TrustPolicy.exempts, hall]
    · rw [if_neg hnil, TrustPolicy.exempts, HostSet.contains_iff, HostSet.mem_ofList, List.mem_map]
      exact ⟨.inr, fun h => h.resolve_left hall⟩

end Exemption

namespace ClientDraft

open Exemption

theorem mem_filterMap_exemption?_iff {calls : List ClientCall} {call : ExemptionCall} :
    call ∈ calls.filterMap ClientCall.exemption? ↔ .exemption call ∈ calls := by
  rw [List.mem_filterMap]
  constructor
  · rintro ⟨other, hother, hcall⟩
    cases other with
    | common call => cases hcall
    | exemption call =>
      cases hcall
      exact hother
  · intro h
    exact ⟨_, h, rfl⟩

/-- The half of the draft that every draft has is what the calls that every draft takes make of it. -/
theorem common_run (calls : List ClientCall) :
    (empty.run calls).common = Draft.empty.run (calls.filterMap ClientCall.common?) :=
  isPart_common.view_runFrom empty calls

/-- The other half is what the calls about verification that succeed come to. -/
theorem exemption_run (calls : List ClientCall) :
    (empty.run calls).exemption =
      tally ((taken ClientDraft.call empty calls).filterMap ClientCall.exemption?) := by
  rw [isPart_exemption.filterMap_taken empty calls]
  exact (isPart_exemption.view_runFrom empty calls).trans (runFrom_call_eq_tally _).2

/-- **The policy of a run exempts whom a successful call of the run exempts.** -/
theorem exempts_run_iff {calls : List ClientCall} {peer : PeerName} :
    (empty.run calls).exemption.policy.exempts peer = true ↔
      Exempted (taken ClientDraft.call empty calls) peer := by
  rw [exemption_run, exempts_tally_iff, mem_filterMap_exemption?_iff, Exempted]
  refine or_congr_right ?_
  constructor
  · rintro ⟨host, hhost, htext⟩
    obtain ⟨hosts, hcall, hmem⟩ := mem_allListed.mp hhost
    exact ⟨hosts, mem_filterMap_exemption?_iff.mp hcall, host, hmem, htext⟩
  · rintro ⟨hosts, hcall, host, hmem, htext⟩
    exact ⟨host, mem_allListed.mpr ⟨hosts, mem_filterMap_exemption?_iff.mpr hcall, hmem⟩, htext⟩

theorem trusted_run (calls : List ClientCall) :
    (empty.run calls).common.trusted =
      (calls.filterMap ClientCall.common?).flatMap DraftCall.trusts := by
  rw [common_run]
  exact Draft.trusted_runFrom .empty _

end ClientDraft

/-! ## All profiles -/

/-- **Exactly the chains of exempted peers are believed unseen.** A client's profile believes a chain
    unseen if a successful call of its run exempts the peer; every other chain it leaves to the engine,
    by the anchors that the run chose. A profile of any other kind leaves every chain to the engine. The
    configurations made of a profile judge as the profile does, for whatever host they are made. -/
theorem believed_unseen_iff_exempted (engine : Engine) (question : ChainQuestion) :
    (∀ calls profile, ((ClientDraft.empty.run calls).build engine).run.value = .ok profile →
      ((ClientDraft.empty.run calls).BelievesUnseen engine question ↔
        Exempted (taken ClientDraft.call .empty calls) question.peer) ∧
      (¬ Exempted (taken ClientDraft.call .empty calls) question.peer →
        profile.LeavesToEngine engine
          (anchorsOf ((calls.filterMap ClientCall.common?).flatMap DraftCall.trusts)) question)) ∧
    (∀ calls profile, ((Draft.empty.run calls).build engine).run.value = .ok profile →
      profile.LeavesToEngine engine (anchorsOf (calls.flatMap DraftCall.trusts)) question) ∧
    (∀ credential, ∃ profile, (Profile.presenting engine credential).run.value = .ok profile ∧
      profile.LeavesToEngine engine [.webAuthorities] question) ∧
    ∀ (profile : Profile) (host : String) (config : ClientConfig),
      (profile.clientConfig host).run.value = .ok config →
        config.verifier.verifyChain question = profile.verifier.verifyChain question := by
  refine ⟨?_, ?_, ?_, ?_⟩
  · intro calls profile hbuild
    have hpolicy : profile.trust = (ClientDraft.empty.run calls).exemption.policy := by
      rw [(Draft.freeze_eq_ok_iff.mp hbuild).2]
      rfl
    have hexempts : profile.trust.exempts question.peer = true ↔
        Exempted (taken ClientDraft.call .empty calls) question.peer := by
      rw [hpolicy]
      exact ClientDraft.exempts_run_iff
    constructor
    · rw [ClientDraft.believesUnseen_iff hbuild, hexempts]
    · intro hnot
      have hverdict := TrustPolicy.verifyChain_of_not_exempts (fun h => hnot (hexempts.mp h)) engine
      rw [← ClientDraft.trusted_run]
      obtain ⟨_, rfl⟩ := Draft.freeze_eq_ok_iff.mp hbuild
      exact ⟨rfl, hverdict _ _⟩
  · intro calls profile hbuild
    have htrusted : (Draft.empty.run calls).trusted = calls.flatMap DraftCall.trusts :=
      Draft.trusted_runFrom .empty calls
    obtain ⟨_, rfl⟩ := Draft.freeze_eq_ok_iff.mp hbuild
    rw [← htrusted]
    exact ⟨rfl, rfl⟩
  · intro credential
    exact ⟨_, Draft.freeze_of_trusted_eq_nil rfl engine .verifyAll, rfl, rfl⟩
  · intro profile host config hconfig
    rw [Profile.verifier_of_clientConfig hconfig]

/-- A listed host is believed unseen under another spelling, and a refused call exempts nobody. -/
theorem believed_unseen_respelled :
    let calls : List ClientCall :=
      [.exemption (.exemptHosts ["A.com."]), .exemption .exemptAll, .exemption (.exemptHosts ["*.b.com"])]
    (ClientDraft.empty.run calls).BelievesUnseen (Catalogue.engine []) (.about (.dns "a.COM")) ∧
      ¬ (ClientDraft.empty.run calls).BelievesUnseen (Catalogue.engine []) (.about (.dns "x.b.com")) := by
  intro calls
  have hbuilt := Draft.freeze_of_trusted_eq_nil (ClientDraft.trusted_run calls) (Catalogue.engine [])
    (ClientDraft.empty.run calls).exemption.policy
  have hone := ((believed_unseen_iff_exempted (Catalogue.engine []) (.about (.dns "a.COM"))).1 calls _
    hbuilt).1
  have hother := ((believed_unseen_iff_exempted (Catalogue.engine []) (.about (.dns "x.b.com"))).1 calls _
    hbuilt).1
  have htaken : taken ClientDraft.call .empty calls = [.exemption (.exemptHosts ["A.com."])] := by
    rfl
  rw [htaken] at hone hother
  constructor
  · refine hone.mpr (.inr ⟨["A.com."], List.mem_cons_self, "A.com.", List.mem_cons_self, ?_⟩)
    decide
  · rw [hother]
    rintro (h | ⟨hosts, h, host, hhost, htext⟩)
    · cases List.mem_singleton.mp h
    · cases List.mem_singleton.mp h
      cases List.mem_singleton.mp hhost
      exact absurd htext (by decide)

end TlsIdentity
