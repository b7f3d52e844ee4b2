import TlsIdentity.Draft

/-!
# Built profiles

`freeze` opened once, with everything it reads and reports. It fails only on a certificate that cannot be
an anchor. Otherwise there is at least one anchor, so the verifier can always be made, and the profile is
`frozen`, a function of the draft, the engine and the policy. Later modules argue about `frozen` and
never open `freeze` again.
-/

namespace TlsIdentity

/-! ## Anchors -/

/-- The anchors that certificates make which the engine accepts: each of them, or the web's authorities
    if there is none. -/
def anchorsOf (trusted : List Certificate) : List TrustAnchor :=
  if trusted = [] then [.webAuthorities] else trusted.map .certificate

theorem anchorsOf_ne_nil (trusted : List Certificate) : anchorsOf trusted ≠ [] := by
  unfold anchorsOf
  by_cases h : trusted = []
  · rw [if_pos h]
    exact List.cons_ne_nil _ _
  · rw [if_neg h]
    exact fun hmap => h (List.map_eq_nil_iff.mp hmap)

namespace Engine

variable {engine : Engine}

theorem mapM_checkAnchor_eq_ok_iff {trusted : List Certificate} {anchors : List TrustAnchor} :
    (trusted.mapM fun certificate => do
        engine.checkAnchor certificate
        return TrustAnchor.certificate certificate) = .ok anchors ↔
      (∀ certificate ∈ trusted, engine.checkAnchor certificate = .ok ()) ∧
        anchors = trusted.map .certificate := by
  induction trusted generalizing anchors with
  | nil =>
    show Except.ok [] = .ok anchors ↔ _
    simp [eq_comm]
  | cons first rest ih =>
    rw [List.mapM_cons]
    cases hfirst : engine.checkAnchor first with
    | error e =>
      constructor
      · intro h
        cases h
      · rintro ⟨hall, _⟩
        rw [hall first List.mem_cons_self] at hfirst
        cases hfirst
    | ok _ =>
      -- the first certificate is accepted, and the others decide
      constructor
      · intro h
        cases hrest : (rest.mapM fun certificate => do
            engine.checkAnchor certificate
            return TrustAnchor.certificate certificate) with
        | error e =>
          rw [hrest] at h
          cases h
        | ok others =>
          rw [hrest] at h
          obtain ⟨hall, rfl⟩ := ih.mp hrest
          cases h
          exact ⟨List.forall_mem_cons.mpr ⟨hfirst, hall⟩, rfl⟩
      · rintro ⟨hall, rfl⟩
        have hrest := ih.mpr ⟨(List.forall_mem_cons.mp hall).2, rfl⟩
        rw [hrest]
        rfl

/-- **The anchors can be made exactly if the engine accepts every certificate.** -/
theorem anchors_eq_ok_iff {trusted : List Certificate} {anchors : List TrustAnchor} :
    engine.anchors trusted = .ok anchors ↔
      (∀ certificate ∈ trusted, engine.checkAnchor certificate = .ok ()) ∧
        anchors = anchorsOf trusted := by
  unfold Engine.anchors anchorsOf
  by_cases h : trusted = []
  · rw [if_pos h, if_pos h, h]
    simp [eq_comm]
  · rw [if_neg h, if_neg h]
    exact mapM_checkAnchor_eq_ok_iff

/-- The verifier that asks the engine about every chain. -/
def chainVerifier (engine : Engine) (backend : Backend) (anchors : List TrustAnchor) :
    ServerVerifier CertificateFault where
  verifyChain question := Attempt.ofExcept (engine.checkServer backend anchors question)
  verifySignature := engine.checkSignature backend
  schemes := engine.schemes backend
  authorityHints := none

theorem serverVerifier_of_ne_nil (backend : Backend) {anchors : List TrustAnchor} (h : anchors ≠ []) :
    engine.serverVerifier backend anchors = .ok (engine.chainVerifier backend anchors) := by
  rw [serverVerifier, if_neg h]
  rfl

end Engine

/-! ## Verifiers -/

namespace TrustPolicy

/-- What is reported when a verifier is made that leaves servers unverified. -/
def warnings : TrustPolicy → List Event
  | .verifyAll => []
  | .skipAll => [.noVerification]
  | .skipHosts hosts => [.noVerificationOf hosts]

/-- The verifier that carries out a policy over anchors of which there is at least one. -/
def verifierOver (policy : TrustPolicy) (engine : Engine) (backend : Backend)
    (anchors : List TrustAnchor) : ServerVerifier CertificateFault :=
  match policy with
  | .verifyAll => engine.chainVerifier backend anchors
  | .skipAll => engine.signatureVerifier backend
  | .skipHosts hosts => .sparing hosts (engine.chainVerifier backend anchors)

theorem run_verifier (policy : TrustPolicy) (engine : Engine) (backend : Backend)
    {anchors : List TrustAnchor} (h : anchors ≠ []) :
    (policy.verifier engine backend anchors).run =
      ⟨policy.warnings, .ok (policy.verifierOver engine backend anchors)⟩ := by
  have hmade := engine.serverVerifier_of_ne_nil backend h
  cases policy with
  | verifyAll =>
    rw [verifier, hmade]
    rfl
  | skipAll => rfl
  | skipHosts hosts =>
    rw [verifier, hmade]
    rfl

end TrustPolicy

/-! ## Profiles -/

namespace Draft

/-- The profile that a draft makes when the engine accepts its certificates. -/
def frozen (draft : Draft) (engine : Engine) (trust : TrustPolicy) : Profile where
  identities := draft.identities
  trust := trust
  anchors := anchorsOf draft.trusted
  verifier := trust.verifierOver engine (draft.backend engine) (anchorsOf draft.trusted)
  customizers := draft.customizers
  backend := draft.backend engine
  allowsUnsafeSuites := draft.allowsUnsafeSuites
  meterLabel := draft.meterLabel

/-- What is reported when a profile is made: verification, then suites, then identities. -/
def frozenEvents (draft : Draft) (trust : TrustPolicy) : List Event :=
  trust.warnings ++ (if draft.allowsUnsafeSuites then [.unsafeSuitesAllowed] else []) ++
    (if draft.identities.isEmpty then [.noIdentity] else [])

/-- **All that `freeze` does.** A refused certificate is the error, with nothing reported; else the
    profile is `frozen`. -/
theorem run_freeze (draft : Draft) (engine : Engine) (trust : TrustPolicy) :
    (draft.freeze engine trust).run =
      match engine.anchors draft.trusted with
      | .error error => ⟨[], .error (.engine error)⟩
      | .ok _ => ⟨draft.frozenEvents trust, .ok (draft.frozen engine trust)⟩ := by
  cases hanchors : engine.anchors draft.trusted with
  | error error =>
    have hrefused : (Attempt.ofExcept ((engine.anchors draft.trusted).mapError ConfigError.engine)).run
        = ⟨[], .error (.engine error)⟩ := by
      rw [hanchors]
      rfl
    rw [freeze, Attempt.run_bind_of_error hrefused]
  | ok anchors =>
    obtain ⟨_, rfl⟩ := Engine.anchors_eq_ok_iff.mp hanchors
    -- there is at least one anchor, so the verifier cannot be refused
    have hverifier := trust.run_verifier engine (draft.backend engine) (anchorsOf_ne_nil draft.trusted)
    have hmade : (Attempt.ofExcept ((engine.anchors draft.trusted).mapError ConfigError.engine)).run
        = ⟨[], .ok (anchorsOf draft.trusted)⟩ := by
      rw [hanchors]
      rfl
    rw [freeze, Attempt.run_bind_of_ok hmade, Attempt.run_bind_of_ok hverifier, frozenEvents]
    -- what is left are the two optional reports
    cases hunsafe : draft.allowsUnsafeSuites <;> cases draft.identities.isEmpty <;>
      simp only [frozen, hunsafe, if_true, if_false, Bool.false_eq_true, List.append_assoc,
        List.nil_append] <;>
      rfl

theorem freeze_eq_ok_iff {draft : Draft} {engine : Engine} {trust : TrustPolicy} {profile : Profile} :
    (draft.freeze engine trust).run.value = .ok profile ↔
      (∀ certificate ∈ draft.trusted, engine.checkAnchor certificate = .ok ()) ∧
        profile = draft.frozen engine trust := by
  rw [run_freeze]
  cases hanchors : engine.anchors draft.trusted with
  | error error =>
    constructor
    · intro h
      cases h
    · rintro ⟨hall, _⟩
      rw [Engine.anchors_eq_ok_iff.mpr ⟨hall, rfl⟩] at hanchors
      cases hanchors
  | ok anchors =>
    constructor
    · intro h
      cases h
      exact ⟨(Engine.anchors_eq_ok_iff.mp hanchors).1, rfl⟩
    · rintro ⟨_, rfl⟩
      rfl

/-- Without certificates there is nothing that the engine could refuse. -/
theorem freeze_of_trusted_eq_nil {draft : Draft} (h : draft.trusted = []) (engine : Engine)
    (trust : TrustPolicy) : (draft.freeze engine trust).run.value = .ok (draft.frozen engine trust) := by
  refine freeze_eq_ok_iff.mpr ⟨?_, rfl⟩
  rw [h]
  exact fun _ hmem => absurd hmem List.not_mem_nil

end Draft

end TlsIdentity
