import TlsIdentity.Profile

/-!
# Configurations of profiles

`clientConfig` and `serverConfig` opened once. With a usable backend, and anchors to judge clients by,
each gives a configuration that is a plain function of the profile: `clientConfigFor` and
`serverConfigFor`. Without a usable backend neither gives one.
-/

namespace TlsIdentity

/-- The verifier that judges a client by `anchors`, whether or not there are any. -/
def Engine.clientVerifierOver (engine : Engine) (backend : Backend) (anchors : List TrustAnchor)
    (required : Bool) : ClientVerifier where
  required := required
  verifyChain := engine.checkClient backend anchors
  verifySignature := engine.checkSignature backend
  schemes := engine.schemes backend

namespace Profile

variable {profile : Profile} {engine : Engine} {host : String} {auth : ClientAuth}

/-! ## Look-up -/

@[simp] theorem value_find (profile : Profile) (host : String) :
    (profile.find host).value = profile.identities.find? host := by
  rw [find]
  cases profile.identities.find? host <;> rfl

theorem requireSuites_eq_ok_iff : profile.requireSuites = .ok () ↔ profile.backend.isUsable = true := by
  rw [requireSuites]
  cases profile.backend.isUsable <;> simp

/-! ## Clients -/

/-- The configuration of a client for `host`, if the backend is usable. -/
def clientConfigFor (profile : Profile) (host : String) : ClientConfig where
  settings := profile.customizers.applyClient {}
  backend := profile.backend
  verifier := profile.verifier
  identity := profile.identities.find? host

theorem clientConfig_eq_ok_iff {config : ClientConfig} :
    (profile.clientConfig host).run.value = .ok config ↔
      profile.backend.isUsable = true ∧ profile.clientConfigFor host = config := by
  rw [clientConfig, Attempt.value_bind_eq_ok_iff]
  simp only [Attempt.value_bind_eq_ok_iff, Attempt.value_lift_eq_ok_iff,
    Attempt.value_ofExcept_eq_ok_iff, Attempt.value_pure_eq_ok_iff, value_find]
  constructor
  · rintro ⟨_, rfl, _, husable, rfl⟩
    exact ⟨requireSuites_eq_ok_iff.mp husable, rfl⟩
  · rintro ⟨husable, rfl⟩
    exact ⟨_, rfl, (), requireSuites_eq_ok_iff.mpr husable, rfl⟩

/-! ## Servers -/

/-- The verifier of clients that the profile makes for a demand on them. -/
def clientVerifierFor (profile : Profile) (engine : Engine) : ClientAuth → Option ClientVerifier
  | .disabled => none
  | .optional => some (engine.clientVerifierOver profile.backend profile.anchors false)
  | .enabled => some (engine.clientVerifierOver profile.backend profile.anchors true)

/-- With anchors to judge clients by, there is nothing to refuse in a demand. -/
theorem clientVerifier_of_ne_nil (h : profile.anchors ≠ []) :
    profile.clientVerifier engine auth = .ok (profile.clientVerifierFor engine auth) := by
  have hmade (required : Bool) : engine.clientVerifier profile.backend profile.anchors required =
      .ok (engine.clientVerifierOver profile.backend profile.anchors required) := by
    rw [Engine.clientVerifier, if_neg h]
    rfl
  cases auth with
  | disabled => rfl
  | optional | enabled =>
    rw [clientVerifier, hmade]
    rfl

/-- The configuration of a server, if the backend is usable. -/
def serverConfigFor (profile : Profile) (engine : Engine) (auth : ClientAuth) : ServerConfig where
  settings := profile.customizers.applyServer {}
  backend := profile.backend
  clientVerifier := profile.clientVerifierFor engine auth
  identityFor := profile.findIndicated

/-- With anchors to judge clients by, a backend without cipher suites is all that a server's configuration can
    fail for. -/
theorem serverConfig_of_ne_nil (h : profile.anchors ≠ []) (engine : Engine) (auth : ClientAuth) :
    profile.serverConfig engine auth =
      if profile.backend.isUsable then .ok (profile.serverConfigFor engine auth)
      else .error (.engine .noCipherSuites) := by
  rw [serverConfig, clientVerifier_of_ne_nil h, requireSuites]
  cases profile.backend.isUsable <;> rfl

theorem serverConfig_eq_ok_iff (h : profile.anchors ≠ []) {config : ServerConfig} :
    profile.serverConfig engine auth = .ok config ↔
      profile.backend.isUsable = true ∧ profile.serverConfigFor engine auth = config := by
  rw [serverConfig_of_ne_nil h]
  cases profile.backend.isUsable <;> simp

end Profile

end TlsIdentity
