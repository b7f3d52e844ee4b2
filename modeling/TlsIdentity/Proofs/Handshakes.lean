import TlsIdentity.Proofs.Configurations
import TlsIdentity.Proofs.Runs
import TlsIdentity.Workbench

/-!
# Handshakes

A handshake is run by the engine, and what it does on the way is not for the library to say. What is relied on
is stated here: an engine presents what the server's configuration finds (`Engine.PresentsFound`), and it has
clients judged as the server's configuration says (`Engine.JudgesClients`). Both speak of configurations alone
and know nothing of profiles. For two profiles, `EndsWith` says what comes of a handshake that is begun; it is
read off the configurations that the profiles make.
-/

namespace TlsIdentity

/-! ## What is relied on -/

/-- A text names the peer. -/
def PeerName.IsNamed (peer : PeerName) : Prop :=
  ∃ text, ofText? text = some peer

/-- What a client with this configuration tells a server that it reaches as `peer`: a DNS name in any spelling,
    if the settings let it be told. An address is never told. -/
inductive ClientConfig.Tells (client : ClientConfig) : PeerName → Option String → Prop
  | name {name spelling : String} : client.settings.indicatesName = true →
      HostName.canonical spelling = HostName.canonical name → Tells client (.dns name) (some spelling)
  | nothing {name : String} : client.settings.indicatesName = false → Tells client (.dns name) none
  | ipv4 (address : IPv4) : Tells client (.ipv4 address) none
  | ipv6 (address : IPv6) : Tells client (.ipv6 address) none

namespace Engine

/-- The engine presents what the server's configuration finds for the name that the client tells. -/
structure PresentsFound (engine : Engine) : Prop where
  /-- The chain that was presented is that of the credential found. -/
  presented : ∀ {client server peer time connection}, peer.IsNamed →
    (engine.handshake client server peer time).run.value = .ok connection →
      client.Tells peer connection.indicated ∧
        ∃ credential, (server.identityFor connection.indicated).value = some credential ∧
          connection.serverChain = credential.chain
  /-- A server that can find nothing gives up, if the two sides get as far as a version to speak. -/
  gives_up : ∀ {client server peer} (time : Nat), peer.IsNamed →
    (∀ told, client.Tells peer told → (server.identityFor told).value = none) →
      (engine.handshake client server peer time).run.value = .error .fragmentSize ∨
        ∃ clientFault serverFault,
          (engine.handshake client server peer time).run.value = .error (.refused clientFault serverFault) ∧
            (serverFault = .noIdentity ∨ serverFault = .noCommonVersion)

/-- The engine has clients judged as the server's configuration says. -/
structure JudgesClients (engine : Engine) : Prop where
  /-- Who is not asked for a certificate shows none. -/
  unasked : ∀ {client server peer time connection},
    (engine.handshake client server peer time).run.value = .ok connection →
      server.clientVerifier = none → connection.clientChain = none
  /-- Who is asked shows the credential of the configuration if its key signs by a scheme that is offered. -/
  shown : ∀ {client server peer time connection verifier},
    (engine.handshake client server peer time).run.value = .ok connection →
      server.clientVerifier = some verifier →
        connection.clientChain =
          (client.identity.filter fun credential => engine.canSign credential.key verifier.schemes).map (·.chain)
  /-- A chain that was shown has been judged. -/
  verified : ∀ {client server peer time connection verifier},
    (engine.handshake client server peer time).run.value = .ok connection →
      server.clientVerifier = some verifier →
        ∀ chain, connection.clientChain = some chain → verifier.verifyChain chain time = .ok ()
  /-- Who must show a chain has shown one. -/
  insisted : ∀ {client server peer time connection verifier},
    (engine.handshake client server peer time).run.value = .ok connection →
      server.clientVerifier = some verifier → verifier.required = true → connection.clientChain ≠ none

end Engine

/-! ## Handshakes of two profiles -/

/-- The result of a handshake by its outcome; one that cannot be begun has none. -/
def HandshakeResult.ofOutcome : Except ConnectError Connection → Except StepError HandshakeResult
  | .ok connection => .ok (.completed connection)
  | .error (.refused clientFault serverFault) => .ok (.failed clientFault serverFault)
  | .error .fragmentSize => .error .unconnectable

theorem HandshakeResult.ofOutcome_eq_completed_iff {outcome : Except ConnectError Connection}
    {connection : Connection} :
    ofOutcome outcome = .ok (.completed connection) ↔ outcome = .ok connection := by
  cases outcome with
  | ok own => simp [ofOutcome]
  | error error => cases error <;> simp [ofOutcome]

/-- The handshake of `plan` between two profiles is begun, with configurations that they make, and comes to
    this result. -/
def HandshakePlan.EndsWith (plan : HandshakePlan) (engine : Engine) (time : Nat) (client server : Profile)
    (result : HandshakeResult) : Prop :=
  ∃ config, (client.clientConfig plan.host).run.value = .ok config ∧
    (server.handshake engine time config plan).run.value = .ok result

namespace Profile

variable {client server : Profile} {engine : Engine} {time : Nat} {plan : HandshakePlan}
  {config : ClientConfig} {result : HandshakeResult}

theorem handshake_eq_ok_iff :
    (server.handshake engine time config plan).run.value = .ok result ↔
      ∃ serverConfig peer, server.serverConfig engine plan.auth = .ok serverConfig ∧
        PeerName.ofText? plan.peer = some peer ∧
        HandshakeResult.ofOutcome (engine.handshake config serverConfig peer time).run.value =
          .ok result := by
  rw [handshake, Attempt.value_bind_eq_ok_iff]
  simp only [Attempt.value_ofExcept_eq_ok_iff, mapError_eq_ok_iff]
  refine exists_congr fun serverConfig => ?_
  cases hpeer : PeerName.ofText? plan.peer with
  | none =>
    constructor
    · rintro ⟨_, h⟩
      cases h
    · rintro ⟨_, _, h, _⟩
      cases h
  | some peer =>
    simp only [Option.some.injEq, exists_and_left, exists_eq_left']
    refine and_congr_right fun _ => ?_
    rw [Attempt.value_lift_bind]
    -- each outcome is turned into its result
    cases (engine.handshake config serverConfig peer time).run.value with
    | ok connection => exact Iff.rfl
    | error error => cases error <;> exact Iff.rfl

end Profile

namespace HandshakePlan

variable {client server : Profile} {engine : Engine} {time : Nat} {plan : HandshakePlan}
  {result : HandshakeResult} {connection : Connection}

/-- What comes of a handshake is the outcome between the configurations that the profiles make. -/
theorem endsWith_iff (h : server.anchors ≠ []) :
    plan.EndsWith engine time client server result ↔
      client.backend.isUsable = true ∧ server.backend.isUsable = true ∧
        ∃ peer, PeerName.ofText? plan.peer = some peer ∧
          HandshakeResult.ofOutcome (engine.handshake (client.clientConfigFor plan.host)
            (server.serverConfigFor engine plan.auth) peer time).run.value = .ok result := by
  simp only [EndsWith, Profile.clientConfig_eq_ok_iff, Profile.handshake_eq_ok_iff,
    Profile.serverConfig_eq_ok_iff h]
  constructor
  · rintro ⟨_, ⟨hclient, rfl⟩, _, peer, ⟨hserver, rfl⟩, hpeer, houtcome⟩
    exact ⟨hclient, hserver, peer, hpeer, houtcome⟩
  · rintro ⟨hclient, hserver, peer, hpeer, houtcome⟩
    exact ⟨_, ⟨hclient, rfl⟩, _, peer, ⟨hserver, rfl⟩, hpeer, houtcome⟩

/-- **A handshake of two profiles is completed exactly if** both backends are usable, the plan names a peer
    and the engine completes the handshake of the configurations. -/
theorem endsWith_completed_iff (h : server.anchors ≠ []) :
    plan.EndsWith engine time client server (.completed connection) ↔
      client.backend.isUsable = true ∧ server.backend.isUsable = true ∧
        ∃ peer, PeerName.ofText? plan.peer = some peer ∧
          (engine.handshake (client.clientConfigFor plan.host) (server.serverConfigFor engine plan.auth) peer
            time).run.value = .ok connection := by
  simp only [endsWith_iff h, HandshakeResult.ofOutcome_eq_completed_iff]

end HandshakePlan

end TlsIdentity
