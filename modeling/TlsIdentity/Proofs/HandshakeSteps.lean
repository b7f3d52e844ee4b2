import TlsIdentity.Handshake
import TlsIdentity.Proofs.Handshakes
import TlsIdentity.Proofs.PeerSpellings

/-!
# Handshakes step by step

`Connection.establish` makes handshakes of steps that can be looked at. A handshake that ends with a connection has
passed every step on the way: `Established` lists them, and `establish_eq_ok_iff` says that they are all. A server
without an identity to present does not get that far. So an engine whose handshakes go by these steps does what is
relied on elsewhere (`GoesByStep.presentsFound`, `GoesByStep.judgesClients`). That the name that is told is a
spelling of the one by which the server is reached needs a look at the name: it is told in canonical form, which is
its own canonical form since no label of a DNS name is empty.
-/

namespace TlsIdentity

/-! ## Names that are told -/

namespace PeerName

variable {text name : String}

theorem ofText?_eq_some_dns (h : ofText? text = some (.dns name)) :
    name = text ∧ isDnsName text = true := by
  refine ⟨ofText?_eq_some h, ?_⟩
  unfold ofText? at h
  split at h
  · next hdns => exact hdns
  · rw [Option.orElse_eq_orElse, Option.orElse_eq_or, Option.or_eq_some_iff] at h
    rcases h with h | ⟨_, h⟩
    · obtain ⟨_, _, h⟩ := Option.map_eq_some_iff.mp h
      cases h
    · obtain ⟨_, _, h⟩ := Option.map_eq_some_iff.mp h
      cases h

/-- The canonical form of a DNS name does not end in a dot, so it is its own. -/
theorem canonical_canonical_of_isDnsName (h : isDnsName name = true) :
    HostName.canonical (HostName.canonical name) = HostName.canonical name := by
  refine HostName.canonical_canonical fun hlast => ?_
  rw [HostName.toList_canonical, HostName.getLast?_map_toLower_eq_dot_iff] at hlast
  have hempty := HostName.nil_mem_splitOn_of_getLast? hlast
  simp only [isDnsName, Bool.and_eq_true, List.all_eq_true] at h
  exact absurd (h.1.2 [] hempty) (by decide)

end PeerName

namespace Connection

variable {canSign : SigningKey → List SignatureScheme → Bool} {client : ClientConfig} {server : ServerConfig}
  {peer : PeerName} {time : Nat} {version : TlsVersion} {credential : Credential} {connection : Connection}

/-! ## The steps -/

/-- The rest of a handshake once the version and the server's credential are chosen. -/
def proceed (canSign : SigningKey → List SignatureScheme → Bool) (client : ClientConfig) (server : ServerConfig)
    (peer : PeerName) (time : Nat) (version : TlsVersion) (credential : Credential) :
    Attempt ConnectError Connection := do
  let .ok protocol :=
      Negotiation.chooseProtocol server.settings.protocols client.settings.protocols
    | throw (.refused (.alerted .noApplicationProtocol) .noCommonProtocol)
  if !canSign credential.key client.verifier.schemes then
    throw (.cannotSign version)
  judgeServer client version credential peer time
  let clientChain ← Attempt.ofExcept (presentClient canSign client server version time)
  return {
    version := version
    serverChain := credential.chain
    clientChain := clientChain
    indicated := indicatedName client peer
    protocol := protocol }

/-- A handshake begins with the fragment sizes, the version and the server's credential. -/
theorem establish_eq (canSign : SigningKey → List SignatureScheme → Bool) (client : ClientConfig)
    (server : ServerConfig) (peer : PeerName) (time : Nat) :
    establish canSign client server peer time =
      if client.settings.hasValidFragment && server.settings.hasValidFragment then
        match chooseVersion client.backend server.backend with
        | some version =>
          presentServer server (indicatedName client peer) >>= proceed canSign client server peer time version
        | none => throw (.refused (.alerted .protocolVersion) .noCommonVersion)
      else throw .fragmentSize := by
  unfold establish
  cases client.settings.hasValidFragment with
  | false => rfl
  | true =>
    cases server.settings.hasValidFragment with
    | false => rfl
    | true => cases chooseVersion client.backend server.backend <;> rfl

theorem value_presentServer (server : ServerConfig) (indicated : Option String) :
    (presentServer server indicated).run.value =
      match (server.identityFor indicated).value with
      | some credential => .ok credential
      | none => .error (.refused (.alerted .accessDenied) .noIdentity) := by
  rw [presentServer, Attempt.value_lift_bind]
  cases (server.identityFor indicated).value <;> rfl

/-- The client believes a server whose chain it accepts, and whose signature for the leaf. -/
theorem judgeServer_eq_ok_iff :
    (judgeServer client version credential peer time).run.value = .ok () ↔
      ∃ leaf intermediates, credential.chain = leaf :: intermediates ∧
        (client.verifier.verifyChain ⟨leaf, intermediates, peer, [], time⟩).run.value = .ok () ∧
        client.verifier.verifySignature (signatureQuestion version .server leaf credential.key) = .ok () := by
  unfold judgeServer
  cases credential.chain with
  | nil =>
    constructor
    · intro h
      cases h
    · rintro ⟨_, _, h, _⟩
      cases h
  | cons leaf intermediates =>
    simp only [Attempt.value_adapt_eq_ok_iff, Attempt.value_bind_eq_ok_iff, Attempt.value_ofExcept_eq_ok_iff]
    constructor
    · rintro ⟨_, hchain, hsignature⟩
      exact ⟨leaf, intermediates, rfl, hchain, hsignature⟩
    · rintro ⟨_, _, hcons, hchain, hsignature⟩
      cases hcons
      exact ⟨(), hchain, hsignature⟩

/-- The server takes a client's chain that it accepts, if it accepts the signature for the leaf too. -/
theorem judgeClient_eq_ok_iff {verifier : ClientVerifier} :
    judgeClient verifier version credential time = .ok () ↔
      verifier.verifyChain credential.chain time = .ok () ∧
        ∃ leaf intermediates, credential.chain = leaf :: intermediates ∧
          verifier.verifySignature (signatureQuestion version .client leaf credential.key) = .ok () := by
  unfold judgeClient
  cases hchain : credential.chain with
  | nil =>
    constructor
    · intro h
      cases h
    · rintro ⟨_, _, _, h, _⟩
      cases h
  | cons leaf intermediates =>
    simp only [bind_eq_ok_iff]
    constructor
    · rintro ⟨_, hverified, hsignature⟩
      exact ⟨hverified, leaf, intermediates, rfl, hsignature⟩
    · rintro ⟨hverified, _, _, hcons, hsignature⟩
      cases hcons
      exact ⟨(), hverified, hsignature⟩

/-! ## Handshakes that end with a connection -/

/-- What holds of a handshake that ends with `connection`, the server presenting `credential`. -/
structure Established (canSign : SigningKey → List SignatureScheme → Bool) (client : ClientConfig)
    (server : ServerConfig) (peer : PeerName) (time : Nat) (credential : Credential)
    (connection : Connection) : Prop where
  client_fragment : client.settings.hasValidFragment = true
  server_fragment : server.settings.hasValidFragment = true
  version_eq : chooseVersion client.backend server.backend = some connection.version
  presented : (server.identityFor (indicatedName client peer)).value = some credential
  protocol_eq : Negotiation.chooseProtocol server.settings.protocols client.settings.protocols =
    .ok connection.protocol
  signs : canSign credential.key client.verifier.schemes = true
  believed : (judgeServer client connection.version credential peer time).run.value = .ok ()
  clientChain_eq : presentClient canSign client server connection.version time = .ok connection.clientChain
  serverChain_eq : connection.serverChain = credential.chain
  indicated_eq : connection.indicated = indicatedName client peer

theorem proceed_eq_ok_iff :
    (proceed canSign client server peer time version credential).run.value = .ok connection ↔
      ∃ protocol clientChain,
        Negotiation.chooseProtocol server.settings.protocols client.settings.protocols = .ok protocol ∧
        canSign credential.key client.verifier.schemes = true ∧
        (judgeServer client version credential peer time).run.value = .ok () ∧
        presentClient canSign client server version time = .ok clientChain ∧
        connection = ⟨version, credential.chain, clientChain, indicatedName client peer, protocol⟩ := by
  unfold proceed
  cases hprotocol : Negotiation.chooseProtocol server.settings.protocols client.settings.protocols with
  | error e =>
    constructor
    · intro h
      cases h
    · rintro ⟨_, _, h, _⟩
      cases h
  | ok protocol =>
    cases hsign : canSign credential.key client.verifier.schemes with
    | false =>
      constructor
      · intro h
        cases version <;> cases h
      · rintro ⟨_, _, _, h, _⟩
        cases h
    | true =>
      show (judgeServer client version credential peer time >>= _).run.value = _ ↔ _
      simp only [Attempt.value_bind_eq_ok_iff, Attempt.value_ofExcept_eq_ok_iff,
        Attempt.value_pure_eq_ok_iff]
      constructor
      · rintro ⟨_, hbelieved, clientChain, hclient, rfl⟩
        exact ⟨protocol, clientChain, rfl, trivial, hbelieved, hclient, rfl⟩
      · rintro ⟨_, clientChain, h, _, hbelieved, hclient, rfl⟩
        cases h
        exact ⟨(), hbelieved, clientChain, hclient, rfl⟩

/-- **A handshake ends with a connection exactly if every step succeeds**, and then the connection holds
    what the steps agreed on. -/
theorem establish_eq_ok_iff :
    (establish canSign client server peer time).run.value = .ok connection ↔
      ∃ credential, Established canSign client server peer time credential connection := by
  rw [establish_eq]
  constructor
  · intro h
    split at h
    · next hfragment =>
      obtain ⟨hclient, hserver⟩ := Bool.and_eq_true_iff.mp hfragment
      split at h
      · next version hversion =>
        obtain ⟨credential, hpresented, hrest⟩ := Attempt.value_bind_eq_ok_iff.mp h
        obtain ⟨protocol, clientChain, hprotocol, hsigns, hbelieved, hchain, rfl⟩ :=
          proceed_eq_ok_iff.mp hrest
        refine ⟨credential, hclient, hserver, hversion, ?_, hprotocol, hsigns, hbelieved, hchain, rfl, rfl⟩
        rw [value_presentServer] at hpresented
        split at hpresented
        · next own hown =>
          cases hpresented
          exact hown
        · cases hpresented
      · cases h
    · cases h
  · rintro ⟨credential, h⟩
    rw [h.client_fragment, h.server_fragment, Bool.true_and, if_pos rfl, h.version_eq]
    refine Attempt.value_bind_eq_ok_iff.mpr ⟨credential, ?_, proceed_eq_ok_iff.mpr
      ⟨connection.protocol, connection.clientChain, h.protocol_eq, h.signs, h.believed,
        h.clientChain_eq, ?_⟩⟩
    · rw [value_presentServer, h.presented]
    · rw [← h.serverChain_eq, ← h.indicated_eq]

/-- **Without an identity to present the server fails**, unless the two sides did not even get to a version
    to speak. -/
theorem establish_of_no_identity (h : (server.identityFor (indicatedName client peer)).value = none)
    (canSign : SigningKey → List SignatureScheme → Bool) (time : Nat) :
    (establish canSign client server peer time).run.value = .error .fragmentSize ∨
      (establish canSign client server peer time).run.value =
        .error (.refused (.alerted .protocolVersion) .noCommonVersion) ∨
      (establish canSign client server peer time).run.value =
        .error (.refused (.alerted .accessDenied) .noIdentity) := by
  rw [establish_eq]
  split
  · split
    · -- the server looks for an identity and finds none
      refine .inr (.inr ?_)
      have hpresent := value_presentServer server (indicatedName client peer)
      rw [h] at hpresent
      exact Attempt.value_bind_of_error hpresent
    · exact .inr (.inl rfl)
  · exact .inl rfl

/-! ## What the client presents -/

/-- What the server sees of a client that it lets pass: nothing if it does not ask, and else the chain of
    the client's credential, if it has one with a key that signs by a scheme that the server takes. -/
theorem presentClient_eq_ok_iff {shown : Option (List Certificate)} :
    presentClient canSign client server version time = .ok shown ↔
      match server.clientVerifier with
      | none => shown = none
      | some verifier =>
        let presented := client.identity.filter fun credential => canSign credential.key verifier.schemes
        shown = presented.map (·.chain) ∧
          (∀ credential, presented = some credential → judgeClient verifier version credential time = .ok ()) ∧
          (verifier.required = true → shown ≠ none) := by
  unfold presentClient
  cases server.clientVerifier with
  | none =>
    show Except.ok none = .ok shown ↔ shown = none
    rw [Except.ok.injEq, eq_comm]
  | some verifier =>
    dsimp only
    cases client.identity.filter fun credential => canSign credential.key verifier.schemes with
    | none =>
      cases hrequired : verifier.required with
      | false =>
        -- without a chain there is nothing to judge
        constructor
        · rintro ⟨⟩
          exact ⟨rfl, nofun, nofun⟩
        · rintro ⟨rfl, _⟩
          rfl
      | true =>
        constructor
        · intro h
          cases h
        · rintro ⟨rfl, _, hpresent⟩
          exact absurd rfl (hpresent rfl)
    | some credential =>
      dsimp only
      cases hjudged : judgeClient verifier version credential time with
      | error fault =>
        constructor
        · intro h
          cases h
        · rintro ⟨_, hall, _⟩
          cases hjudged.symm.trans (hall credential rfl)
      | ok _ =>
        constructor
        · rintro ⟨⟩
          refine ⟨rfl, fun own hown => ?_, fun _ => nofun⟩
          cases hown
          exact hjudged
        · rintro ⟨rfl, _⟩
          rfl

end Connection

/-! ## Engines that go by these steps -/

/-- The engine's handshakes are those of `Connection.establish`. -/
def Engine.GoesByStep (engine : Engine) : Prop :=
  engine.handshake = Connection.establish engine.canSign

/-- The name that is told is a spelling of the one by which the server is reached. -/
theorem ClientConfig.tells_indicatedName (client : ClientConfig) {peer : PeerName} (h : peer.IsNamed) :
    client.Tells peer (Connection.indicatedName client peer) := by
  obtain ⟨text, htext⟩ := h
  unfold Connection.indicatedName
  cases peer with
  | dns name =>
    obtain ⟨rfl, hdns⟩ := PeerName.ofText?_eq_some_dns htext
    cases hindicates : client.settings.indicatesName with
    | true => exact .name hindicates (PeerName.canonical_canonical_of_isDnsName hdns)
    | false => exact .nothing hindicates
  | ipv4 address =>
    rw [PeerName.indicated?, ite_self]
    exact .ipv4 address
  | ipv6 address =>
    rw [PeerName.indicated?, ite_self]
    exact .ipv6 address

namespace Engine.GoesByStep

variable {engine : Engine} (h : engine.GoesByStep)

include h

theorem handshake_eq_ok_iff {client : ClientConfig} {server : ServerConfig} {peer : PeerName} {time : Nat}
    {connection : Connection} :
    (engine.handshake client server peer time).run.value = .ok connection ↔
      ∃ credential, Connection.Established engine.canSign client server peer time credential connection := by
  rw [show engine.handshake = _ from h]
  exact Connection.establish_eq_ok_iff

theorem presentsFound : engine.PresentsFound where
  presented hnamed hcompleted := by
    obtain ⟨credential, hestablished⟩ := h.handshake_eq_ok_iff.mp hcompleted
    rw [hestablished.indicated_eq]
    exact ⟨ClientConfig.tells_indicatedName _ hnamed, credential, hestablished.presented,
      hestablished.serverChain_eq⟩
  gives_up := by
    intro client server peer time hnamed hnone
    rw [show engine.handshake = _ from h]
    rcases Connection.establish_of_no_identity (hnone _ (client.tells_indicatedName hnamed)) engine.canSign
      time with hfragment | hversion | hidentity
    · exact .inl hfragment
    · exact .inr ⟨_, _, hversion, .inr rfl⟩
    · exact .inr ⟨_, _, hidentity, .inl rfl⟩

/-- What the client presented in a completed handshake has passed the server's judgement. -/
theorem presentClient_eq_ok {client : ClientConfig} {server : ServerConfig} {peer : PeerName} {time : Nat}
    {connection : Connection}
    (hcompleted : (engine.handshake client server peer time).run.value = .ok connection) :
    Connection.presentClient engine.canSign client server connection.version time =
      .ok connection.clientChain := by
  obtain ⟨_, hestablished⟩ := h.handshake_eq_ok_iff.mp hcompleted
  exact hestablished.clientChain_eq

theorem judgesClients : engine.JudgesClients where
  unasked hcompleted hnone := by
    have hpassed := Connection.presentClient_eq_ok_iff.mp (h.presentClient_eq_ok hcompleted)
    rwa [hnone] at hpassed
  shown hcompleted hverifier := by
    have hpassed := Connection.presentClient_eq_ok_iff.mp (h.presentClient_eq_ok hcompleted)
    rw [hverifier] at hpassed
    exact hpassed.1
  verified hcompleted hverifier chain hchain := by
    have hpassed := Connection.presentClient_eq_ok_iff.mp (h.presentClient_eq_ok hcompleted)
    rw [hverifier] at hpassed
    obtain ⟨hshown, hjudged, _⟩ := hpassed
    obtain ⟨credential, hpresented, rfl⟩ := Option.map_eq_some_iff.mp (hshown.symm.trans hchain)
    exact (Connection.judgeClient_eq_ok_iff.mp (hjudged credential hpresented)).1
  insisted hcompleted hverifier hrequired := by
    have hpassed := Connection.presentClient_eq_ok_iff.mp (h.presentClient_eq_ok hcompleted)
    rw [hverifier] at hpassed
    exact hpassed.2.2 hrequired

end Engine.GoesByStep

end TlsIdentity
