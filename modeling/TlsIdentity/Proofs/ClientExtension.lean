import TlsIdentity.Catalogue
import TlsIdentity.Proofs.SignatureChecks

/-!
# A client's draft extends a plain one

Erase the calls about verification from a run of calls on a client's draft. What is left is a run on a
plain draft in which every call ends as it did, since the half of a client's draft that every draft has
does not see the other half (`ClientDraft.common_run`). Both drafts are frozen by the same `freeze`, which
looks at the policy only to choose a verifier: it fails for a reason of the common half, whatever the
policy, and two profiles that it makes of one draft differ in the policy and in verdicts on chains alone
(`Draft.frozen_sameButTrust`). The policy of a client is the plain one unless a call took effect that
leaves some server unverified.
-/

namespace TlsIdentity

/-! ## One draft under two policies -/

/-- Profiles that can differ in whose chains they verify, and in nothing else. -/
structure Profile.SameButTrust (profile other : Profile) : Prop where
  identities_eq : profile.identities = other.identities
  anchors_eq : profile.anchors = other.anchors
  customizers_eq : profile.customizers = other.customizers
  backend_eq : profile.backend = other.backend
  allowsUnsafeSuites_eq : profile.allowsUnsafeSuites = other.allowsUnsafeSuites
  meterLabel_eq : profile.meterLabel = other.meterLabel
  verifySignature_eq : profile.verifier.verifySignature = other.verifier.verifySignature
  schemes_eq : profile.verifier.schemes = other.verifier.schemes
  authorityHints_eq : profile.verifier.authorityHints = other.verifier.authorityHints

/-- Such profiles find the same credentials, and report the same about it. -/
theorem Profile.SameButTrust.find_eq {profile other : Profile} (h : profile.SameButTrust other)
    (host : String) : profile.find host = other.find host := by
  unfold Profile.find
  rw [h.identities_eq]

theorem TrustPolicy.authorityHints_verifierOver (policy : TrustPolicy) (engine : Engine)
    (backend : Backend) (anchors : List TrustAnchor) :
    (policy.verifierOver engine backend anchors).authorityHints = none := by
  cases policy <;> rfl

namespace Draft

variable (draft : Draft) (engine : Engine) (trust other : TrustPolicy)

theorem frozen_sameButTrust :
    (draft.frozen engine trust).SameButTrust (draft.frozen engine other) where
  identities_eq := rfl
  anchors_eq := rfl
  customizers_eq := rfl
  backend_eq := rfl
  allowsUnsafeSuites_eq := rfl
  meterLabel_eq := rfl
  verifySignature_eq := by
    funext question
    exact (trust.verifySignature_verifierOver engine _ _ question).trans
      (other.verifySignature_verifierOver engine _ _ question).symm
  schemes_eq :=
    (trust.schemes_verifierOver engine _ _).trans (other.schemes_verifierOver engine _ _).symm
  authorityHints_eq :=
    (trust.authorityHints_verifierOver engine _ _).trans
      (other.authorityHints_verifierOver engine _ _).symm

/-- A chain that the policy does not exempt gets the verdict that it gets where every chain is verified. -/
theorem verifyChain_frozen {question : ChainQuestion} (h : ¬ trust.exempts question.peer = true) :
    (draft.frozen engine trust).verifier.verifyChain question =
      (draft.frozen engine .verifyAll).verifier.verifyChain question :=
  TrustPolicy.verifyChain_of_not_exempts h engine _ _

/-- **Whether a profile can be made does not depend on the policy**: a certificate that cannot be an anchor
    is refused also where no chain is verified. -/
theorem freeze_alike :
    (∃ error, (draft.freeze engine trust).run.value = .error error ∧
        (draft.freeze engine other).run.value = .error error) ∨
      ((draft.freeze engine trust).run.value = .ok (draft.frozen engine trust) ∧
        (draft.freeze engine other).run.value = .ok (draft.frozen engine other)) := by
  rw [run_freeze, run_freeze]
  cases engine.anchors draft.trusted with
  | error error => exact .inl ⟨_, rfl, rfl⟩
  | ok _ => exact .inr ⟨rfl, rfl⟩

end Draft

/-! ## Calls that take effect -/

/-- A call that, where it succeeds, leaves some server unverified: it is for everybody, or lists a host. -/
def ExemptionCall.spares : ExemptionCall → Bool
  | .exemptAll => true
  | .exemptHosts hosts => !hosts.isEmpty

/-- Some call about verification succeeds in the run and leaves some server unverified. -/
def SomeoneSpared (calls : List ClientCall) : Prop :=
  ∃ call, .exemption call ∈ taken ClientDraft.call .empty calls ∧ call.spares = true

namespace Exemption

theorem spares_eq_true_iff {call : ExemptionCall} :
    call.spares = true ↔ call = .exemptAll ∨ listed call ≠ [] := by
  cases call with
  | exemptAll => simp [ExemptionCall.spares]
  | exemptHosts hosts => simp [ExemptionCall.spares, listed]

/-- Calls come to the plain policy if none of them leaves anybody unverified. -/
theorem policy_tally_eq_verifyAll_iff {calls : List ExemptionCall} :
    (tally calls).policy = .verifyAll ↔ ¬ ∃ call ∈ calls, call.spares = true := by
  rw [ClientDraft.policy_tally]
  by_cases hall : .exemptAll ∈ calls
  · rw [if_pos hall]
    exact ⟨nofun, fun hnone => absurd ⟨_, hall, rfl⟩ hnone⟩
  · rw [if_neg hall]
    by_cases hnil : allListed calls = []
    · rw [if_pos hnil]
      refine ⟨fun _ => ?_, fun _ => rfl⟩
      rintro ⟨call, hcall, hspares⟩
      rcases spares_eq_true_iff.mp hspares with rfl | hlisted
      · exact hall hcall
      · exact hlisted (List.flatMap_eq_nil_iff.mp hnil call hcall)
    · rw [if_neg hnil]
      refine ⟨nofun, fun hnone => absurd (List.flatMap_eq_nil_iff.mpr ?_) hnil⟩
      intro call hcall
      refine Classical.byContradiction fun hlisted => ?_
      exact hnone ⟨call, hcall, spares_eq_true_iff.mpr (.inr hlisted)⟩

end Exemption

namespace ClientDraft

/-- **A run comes to the plain policy exactly if no call of it took effect.** -/
theorem policy_run_eq_verifyAll_iff {calls : List ClientCall} :
    (empty.run calls).exemption.policy = .verifyAll ↔ ¬ SomeoneSpared calls := by
  rw [exemption_run, Exemption.policy_tally_eq_verifyAll_iff, SomeoneSpared]
  simp only [mem_filterMap_exemption?_iff]

/-- **A call that every draft takes ends as it does on the plain draft** of the calls before it without
    those about verification. -/
theorem map_common_call (earlier : List ClientCall) (call : DraftCall) :
    ((empty.run earlier).call (.common call)).map (·.common) =
      (Draft.empty.run (earlier.filterMap ClientCall.common?)).call call := by
  rw [isPart_common.picked rfl, common_run]

end ClientDraft

/-! ## Runs with and without calls about verification -/

/-- **Calls about verification touch nothing else.** Let them be erased from a run of calls on a client's
    draft, and the others be made on a plain draft.

    * Each of the others ends as it does there: with the same error, or with a draft whose common half is
      the plain one.
    * Both builds fail with the same error, or both make a profile.
    * The profiles then are the same but for the policy and for verdicts on chains. They find the same
      credentials, and the verdicts differ at most on chains of peers that a successful call exempts.
    * The policy is the plain one exactly if no call took effect, and then the profiles are equal. -/
theorem client_extends_draft (engine : Engine) (calls : List ClientCall) :
    let base := calls.filterMap ClientCall.common?
    (∀ earlier call later, calls = earlier ++ .common call :: later →
      base = earlier.filterMap ClientCall.common? ++ call :: later.filterMap ClientCall.common? ∧
      ((ClientDraft.empty.run earlier).call (.common call)).map (·.common) =
        (Draft.empty.run (earlier.filterMap ClientCall.common?)).call call) ∧
    ((∃ error, ((ClientDraft.empty.run calls).build engine).run.value = .error error ∧
        ((Draft.empty.run base).build engine).run.value = .error error) ∨
      ∃ profile plain, ((ClientDraft.empty.run calls).build engine).run.value = .ok profile ∧
        ((Draft.empty.run base).build engine).run.value = .ok plain ∧
        profile.SameButTrust plain ∧
        (∀ host, profile.find host = plain.find host) ∧
        (∀ question, ¬ Exempted (taken ClientDraft.call .empty calls) question.peer →
          profile.verifier.verifyChain question = plain.verifier.verifyChain question) ∧
        (profile.trust = plain.trust ↔ ¬ SomeoneSpared calls) ∧
        (¬ SomeoneSpared calls → profile = plain)) := by
  intro base
  constructor
  · rintro earlier call later rfl
    exact ⟨by simp only [base, List.filterMap_append, List.filterMap_cons, ClientCall.common?],
      ClientDraft.map_common_call earlier call⟩
  -- both builds freeze the plain draft, each under its own policy
  have hcommon : (ClientDraft.empty.run calls).common = Draft.empty.run base :=
    ClientDraft.common_run calls
  rw [ClientDraft.build, Draft.build, hcommon]
  rcases (Draft.empty.run base).freeze_alike engine (ClientDraft.empty.run calls).exemption.policy
    .verifyAll with herror | ⟨hclient, hplain⟩
  · exact .inl herror
  refine .inr ⟨_, _, hclient, hplain, ?_, ?_, ?_, ?_, ?_⟩
  · exact Draft.frozen_sameButTrust _ engine _ _
  · exact (Draft.frozen_sameButTrust _ engine _ _).find_eq
  · intro question hnot
    exact Draft.verifyChain_frozen _ engine _ fun h => hnot (ClientDraft.exempts_run_iff.mp h)
  · exact ClientDraft.policy_run_eq_verifyAll_iff
  · intro hnone
    rw [ClientDraft.policy_run_eq_verifyAll_iff.mpr hnone]

/-- A list with an unfit text is refused, and an empty one changes nothing: the client's profile is the
    plain one, although a call that every draft takes was refused in between. -/
theorem refused_exemptions_leave_plain_profile :
    let engine := Catalogue.engine []
    let own : Credential := ⟨none, [⟨[1]⟩], ⟨"key", some .ecdsa⟩⟩
    let calls : List ClientCall := [.exemption (.exemptHosts ["a.com", "*.b.com"]),
      .common (.set "x..y" own), .exemption (.exemptHosts []), .common (.setFallback own)]
    ((ClientDraft.empty.run (calls.take 1)).call (.common (.set "x..y" own))).map (·.common) =
        .error (.invalidHost "x..y") ∧
      ∃ profile, ((ClientDraft.empty.run calls).build engine).run.value = .ok profile ∧
        ((Draft.empty.run [.set "x..y" own, .setFallback own]).build engine).run.value = .ok profile ∧
        profile.trust = .verifyAll := by
  intro engine own calls
  have hunspared : ¬ SomeoneSpared calls := by
    have htaken : taken ClientDraft.call .empty calls =
        [.exemption (.exemptHosts []), .common (.setFallback own)] := by
      rfl
    rw [SomeoneSpared, htaken]
    rintro ⟨call, hcall, hspares⟩
    rcases List.mem_cons.mp hcall with h | h
    · cases h
      cases hspares
    · cases List.mem_singleton.mp h
  have hbuilt := Draft.freeze_of_trusted_eq_nil (ClientDraft.trusted_run calls) engine
    (ClientDraft.empty.run calls).exemption.policy
  obtain ⟨hcalls, hbuilds⟩ := client_extends_draft engine calls
  refine ⟨(hcalls (calls.take 1) (.set "x..y" own) (calls.drop 2) rfl).2, ?_⟩
  rcases hbuilds with ⟨error, hrefused, _⟩ | ⟨profile, plain, hclient, hplain, _, _, _, _, hsame⟩
  · cases hbuilt.symm.trans hrefused
  · cases hsame hunspared
    refine ⟨profile, hclient, hplain, ?_⟩
    cases hbuilt.symm.trans hclient
    exact ClientDraft.policy_run_eq_verifyAll_iff.mpr hunspared

end TlsIdentity
