import TlsIdentity.Proofs.KnownCertificates
import TlsIdentity.Proofs.RunParts

/-!
# Which clients a server admits

What a server sees of a client is settled before the handshake: the credential is the one that the client
has for the host that its configuration was made for, whatever the name by which it reaches the server,
and the server's demand says whether it is asked for. A key that signs by none of the schemes that the server
takes is as good as no credential. A client that must present a chain and has none does not get a connection,
and a chain that is seen has passed the check by the server's anchors. That clients are judged as the server's
configuration says is up to the engine (`Engine.JudgesClients`). Where handshakes go step by step nothing else
depends on the demand, so what a client shows is all that it can be turned away for.
-/

namespace TlsIdentity

/-! ## The credential that a client shows -/

namespace Profile

/-- The credential that `client`, configured for `host`, shows to a server that makes this demand and takes
    signatures by these schemes. -/
def credentialShown (client : Profile) (engine : Engine) (schemes : List SignatureScheme) (host : String)
    (auth : ClientAuth) : Option Credential :=
  if auth = .disabled then none
  else (client.find host).value.filter fun credential => engine.canSign credential.key schemes

variable {client server : Profile} {engine : Engine} {schemes : List SignatureScheme} {version : TlsVersion}
  {time : Nat} {auth : ClientAuth} {host : String} {credential : Credential}

theorem credentialShown_of_asked (hauth : auth ≠ .disabled) :
    client.credentialShown engine schemes host auth =
      (client.find host).value.filter fun credential => engine.canSign credential.key schemes :=
  if_neg hauth

theorem credentialShown_eq_some_iff :
    client.credentialShown engine schemes host auth = some credential ↔
      auth ≠ .disabled ∧ (client.find host).value = some credential ∧
        engine.canSign credential.key schemes = true := by
  by_cases hauth : auth = .disabled
  · simp [credentialShown, hauth]
  · rw [credentialShown_of_asked hauth, Option.filter_eq_some_iff, and_iff_right hauth]

/-- A credential whose key cannot sign is not shown. -/
theorem credentialShown_of_not_canSign (hfound : (client.find host).value = some credential)
    (hsign : engine.canSign credential.key schemes = false) :
    client.credentialShown engine schemes host auth = none := by
  refine Option.eq_none_iff_forall_ne_some.mpr fun other hother => ?_
  obtain ⟨_, hfoundOther, hsigns⟩ := credentialShown_eq_some_iff.mp hother
  cases hfound.symm.trans hfoundOther
  rw [hsign] at hsigns
  cases hsigns

/-- A client that is asked, and whose key for the host can sign if there is one, shows what it has for the
    host. -/
theorem credentialShown_eq_find (hauth : auth ≠ .disabled)
    (hsign : ∀ credential, (client.find host).value = some credential →
      engine.canSign credential.key schemes = true) :
    client.credentialShown engine schemes host auth = (client.find host).value := by
  rw [credentialShown_of_asked hauth]
  cases hfound : (client.find host).value with
  | none => rfl
  | some credential => exact Option.filter_some_pos (hsign credential hfound)

/-- A server that asks has its clients judged by its anchors. -/
theorem clientVerifierFor_of_asked (hauth : auth ≠ .disabled) :
    server.clientVerifierFor engine auth =
      some (engine.clientVerifierOver server.backend server.anchors (auth = .enabled)) := by
  cases auth with
  | disabled => exact absurd rfl hauth
  | optional | enabled => rfl

/-- **What a step lets pass.** The client has shown the credential that it has for this demand, the server's
    anchors and the signature speak for it, and it is there if it must be. -/
theorem presentClient_eq_ok_iff {shown : Option (List Certificate)} :
    Connection.presentClient engine.canSign (client.clientConfigFor host) (server.serverConfigFor engine auth)
        version time = .ok shown ↔
      let own := client.credentialShown engine (engine.schemes server.backend) host auth
      shown = own.map (·.chain) ∧
        (∀ credential, own = some credential →
          Connection.judgeClient (engine.clientVerifierOver server.backend server.anchors (auth = .enabled))
            version credential time = .ok ()) ∧
        (auth = .enabled → shown ≠ none) := by
  have hidentity : (client.clientConfigFor host).identity = (client.find host).value :=
    (value_find client host).symm
  have hmade : (server.serverConfigFor engine auth).clientVerifier = server.clientVerifierFor engine auth := rfl
  rw [Connection.presentClient_eq_ok_iff, hidentity, hmade]
  by_cases hauth : auth = .disabled
  · subst hauth
    constructor
    · rintro rfl
      exact ⟨rfl, nofun, nofun⟩
    · rintro ⟨hshown, _⟩
      exact hshown
  · rw [clientVerifierFor_of_asked hauth, credentialShown_of_asked hauth]
    simp only [Engine.clientVerifierOver, decide_eq_true_eq]

end Profile

/-! ## Admission -/

namespace HandshakePlan

variable {client server : Profile} {engine : Engine} {time : Nat} {plan : HandshakePlan}
  {calls : List ClientCall} {connection : Connection}

/-- What the server has seen of the client when a handshake is completed. -/
theorem clientChain_of_completed (hengine : engine.JudgesClients) (hbuilt : server.BuiltBy engine calls)
    (hends : plan.EndsWith engine time client server (.completed connection)) :
    connection.clientChain =
        (client.credentialShown engine (engine.schemes (backendOf engine calls)) plan.host plan.auth).map
          (·.chain) ∧
      (∀ chain, connection.clientChain = some chain →
        engine.checkClient (backendOf engine calls) (anchorsOf (trustedBy calls)) chain time = .ok ()) ∧
      (plan.auth = .enabled → connection.clientChain ≠ none) := by
  obtain ⟨_, _, _, _, hcompleted⟩ := (endsWith_completed_iff hbuilt.anchors_ne_nil).mp hends
  rw [← hbuilt.backend_eq, ← hbuilt.anchors_eq]
  by_cases hauth : plan.auth = .disabled
  · rw [hauth] at hcompleted ⊢
    have hnone := hengine.unasked hcompleted rfl
    refine ⟨hnone, fun chain hchain => ?_, nofun⟩
    cases hnone.symm.trans hchain
  · have hverifier : (server.serverConfigFor engine plan.auth).clientVerifier = some _ :=
      Profile.clientVerifierFor_of_asked hauth
    have hshown := hengine.shown hcompleted hverifier
    have hidentity : (client.clientConfigFor plan.host).identity = (client.find plan.host).value :=
      (Profile.value_find client plan.host).symm
    rw [hidentity] at hshown
    rw [Profile.credentialShown_of_asked hauth]
    exact ⟨hshown, hengine.verified hcompleted hverifier,
      fun henabled => hengine.insisted hcompleted hverifier (decide_eq_true henabled)⟩

/-- **The demand alone decides who is admitted.** Where handshakes go step by step, a client that gets a
    connection where it is not asked gets one under any demand exactly if the server accepts the credential
    that it shows, if it shows one, and it shows one if it must. -/
theorem exists_completed_iff (hengine : engine.GoesByStep) (hbuilt : server.BuiltBy engine calls)
    (hunasked : { plan with auth := .disabled }.EndsWith engine time client server
      (.completed connection)) :
    (∃ own, plan.EndsWith engine time client server (.completed own)) ↔
      let shown := client.credentialShown engine (engine.schemes (backendOf engine calls)) plan.host plan.auth
      (∀ credential, shown = some credential →
        Connection.judgeClient (engine.clientVerifierOver (backendOf engine calls) (anchorsOf (trustedBy calls))
          (plan.auth = .enabled)) connection.version credential time = .ok ()) ∧
      (plan.auth = .enabled → shown ≠ none) := by
  obtain ⟨hclient, hserver, peer, hpeer, hcompleted⟩ :=
    (endsWith_completed_iff hbuilt.anchors_ne_nil).mp hunasked
  obtain ⟨credential, h⟩ := hengine.handshake_eq_ok_iff.mp hcompleted
  rw [← hbuilt.backend_eq, ← hbuilt.anchors_eq]
  constructor
  · rintro ⟨own, hends⟩
    obtain ⟨_, _, _, _, hown⟩ := (endsWith_completed_iff hbuilt.anchors_ne_nil).mp hends
    obtain ⟨_, hestablished⟩ := hengine.handshake_eq_ok_iff.mp hown
    -- both connections speak the version that the two backends have in common
    have hversion : connection.version = own.version :=
      Option.some.inj (h.version_eq.symm.trans hestablished.version_eq)
    obtain ⟨hshown, hjudged, hpresent⟩ := Profile.presentClient_eq_ok_iff.mp hestablished.clientChain_eq
    rw [hversion]
    refine ⟨hjudged, fun henabled hnone => hpresent henabled ?_⟩
    rw [hshown, hnone, Option.map_none]
  · rintro ⟨hjudged, hpresent⟩
    obtain ⟨chain, hshown⟩ : ∃ chain, Connection.presentClient engine.canSign (client.clientConfigFor plan.host)
        (server.serverConfigFor engine plan.auth) connection.version time = .ok chain :=
      ⟨_, Profile.presentClient_eq_ok_iff.mpr ⟨rfl, hjudged, fun henabled hnone =>
        hpresent henabled (Option.map_eq_none_iff.mp hnone)⟩⟩
    -- no step but the client's own depends on the demand
    have hestablished : Connection.Established engine.canSign (client.clientConfigFor plan.host)
        (server.serverConfigFor engine plan.auth) peer time credential
        { connection with clientChain := chain } := {
      client_fragment := h.client_fragment
      server_fragment := h.server_fragment
      version_eq := h.version_eq
      presented := h.presented
      protocol_eq := h.protocol_eq
      signs := h.signs
      believed := h.believed
      clientChain_eq := hshown
      serverChain_eq := h.serverChain_eq
      indicated_eq := h.indicated_eq }
    exact ⟨_, (endsWith_completed_iff hbuilt.anchors_ne_nil).mpr
      ⟨hclient, hserver, peer, hpeer, hengine.handshake_eq_ok_iff.mpr ⟨credential, hestablished⟩⟩⟩

end HandshakePlan

/-- **A server sees of its clients what it demands.** Let a handshake between any client's profile and a
    server's, built by any run of calls, be completed, under whatever host, name and demand on clients, with an
    engine that has clients judged as the server's configuration says. The credential in question is the
    client's for the host, and its key can sign if it does so by a scheme that the server's backend takes.

    * A server that does not ask sees no chain.
    * One that admits clients without a certificate sees none exactly if the client has no credential, and
      else its chain, given that the key can sign. With a key that cannot, it sees none.
    * One that turns them away sees the chain of the credential, so there is one.
    * Every chain that is seen is verified by the certificates that the run trusts, or by the web's
      authorities if it trusts none.
    * The name by which the client reaches the server has no part in this. -/
theorem clients_admitted_as_demanded {engine : Engine} (hengine : engine.JudgesClients) (time : Nat)
    (plan : HandshakePlan) {role : Role} {calls : List ClientCall} {client server : Profile}
    {connection : Connection}
    (hserver : ((AnyDraft.ofRun role calls).build engine).run.value = .ok server)
    (hends : plan.EndsWith engine time client server (.completed connection)) :
    (plan.auth = .disabled → connection.clientChain = none) ∧
    (plan.auth = .optional →
      (∀ credential, (client.find plan.host).value = some credential →
        engine.canSign credential.key (engine.schemes (backendOf engine calls)) = true) →
      (connection.clientChain = none ↔ (client.find plan.host).value = none) ∧
        ∀ credential, (client.find plan.host).value = some credential →
          connection.clientChain = some credential.chain) ∧
    (plan.auth = .optional → ∀ credential, (client.find plan.host).value = some credential →
      engine.canSign credential.key (engine.schemes (backendOf engine calls)) = false →
        connection.clientChain = none) ∧
    (plan.auth = .enabled → ∃ credential, (client.find plan.host).value = some credential ∧
      connection.clientChain = some credential.chain) ∧
    (∀ chain, connection.clientChain = some chain →
      engine.checkClient (backendOf engine calls) (anchorsOf (trustedBy calls)) chain time = .ok ()) ∧
    ∀ peer other, { plan with peer := peer }.EndsWith engine time client server (.completed other) →
      other.clientChain = connection.clientChain := by
  have hbuilt := AnyDraft.builtBy_of_build hserver
  obtain ⟨hshown, hverified, hpresent⟩ := HandshakePlan.clientChain_of_completed hengine hbuilt hends
  refine ⟨?_, ?_, ?_, ?_, hverified, ?_⟩
  · intro hauth
    rw [hshown, hauth]
    rfl
  · intro hauth hsign
    have hasked : plan.auth ≠ .disabled := by
      rw [hauth]
      nofun
    rw [hshown, Profile.credentialShown_eq_find hasked hsign]
    refine ⟨Option.map_eq_none_iff, fun credential hfound => ?_⟩
    rw [hfound, Option.map_some]
  · intro _ credential hfound hsign
    rw [hshown, Profile.credentialShown_of_not_canSign hfound hsign, Option.map_none]
  · intro hauth
    obtain ⟨chain, hchain⟩ := Option.ne_none_iff_exists'.mp (hpresent hauth)
    obtain ⟨credential, hcredential, rfl⟩ := Option.map_eq_some_iff.mp (hshown.symm.trans hchain)
    exact ⟨credential, (Profile.credentialShown_eq_some_iff.mp hcredential).2.1, hchain⟩
  · intro peer other hother
    -- the plan with another name asks for the same chain
    have hsame := (HandshakePlan.clientChain_of_completed hengine hbuilt hother).1
    exact hsame.trans hshown.symm

/-- A client with a credential for the office and another for all other hosts is configured for the office
    and reaches a server elsewhere. The server asks for a chain without insisting on one, and trusts the
    certificate of the office: this is the one that it sees. -/
theorem office_credential_shown_elsewhere :
    let engine := Samples.catalogue.engine
    ∃ own office, Samples.catalogue.credential? "own" ["a"] = some own ∧
      Samples.catalogue.credential? "office" ["cli"] = some office ∧
      let calls : List ClientCall := [.common (.setFallback own), .common (.trust office.chain)]
      let clientCalls : List ClientCall :=
        [.common (.set "office.org" office), .common (.setFallback own), .common (.trust own.chain)]
      let client := (AnyDraft.ofRun .client clientCalls).frozen engine
      let server := (AnyDraft.ofRun .server calls).frozen engine
      let plan : HandshakePlan := ⟨"client", "server", "Office.org", .optional, "a.com"⟩
      let connection : Connection := ⟨.v13, own.chain, some office.chain, some "a.com", none⟩
      ((AnyDraft.ofRun .client clientCalls).build engine).run.value = .ok client ∧
        ((AnyDraft.ofRun .server calls).build engine).run.value = .ok server ∧
        plan.EndsWith engine Samples.time client server (.completed connection) ∧
        (∀ credential, (client.find plan.host).value = some credential →
          engine.canSign credential.key (engine.schemes (backendOf engine calls)) = true) ∧
        ((connection.clientChain = none ↔ (client.find plan.host).value = none) ∧
          ∀ credential, (client.find plan.host).value = some credential →
            connection.clientChain = some credential.chain) ∧
        engine.checkClient (backendOf engine calls) (anchorsOf (trustedBy calls)) office.chain Samples.time =
          .ok () := by
  intro engine
  obtain ⟨ownCertificate, officeCertificate, hown, hoffice⟩ := Samples.exists_finds
  refine ⟨_, _, hown.credential?_eq "own", hoffice.credential?_eq "office", ?_⟩
  intro calls clientCalls client server plan connection
  let own := (Samples.aSample.entryWith ownCertificate).alone "own"
  let office := (Samples.cliSample.entryWith officeCertificate).alone "office"
  have hserver : ((AnyDraft.ofRun .server calls).build engine).run.value = .ok server := by
    have htrusted : trustedBy calls = [officeCertificate] := by rfl
    refine (AnyDraft.build_eq_ok_iff .server calls engine).mpr ⟨?_, rfl⟩
    rw [htrusted, List.forall_mem_singleton]
    exact hoffice.checkAnchor_eq_ok
  have hclient : ((AnyDraft.ofRun .client clientCalls).build engine).run.value = .ok client := by
    have htrusted : trustedBy clientCalls = [ownCertificate] := by rfl
    refine (AnyDraft.build_eq_ok_iff .client clientCalls engine).mpr ⟨?_, rfl⟩
    rw [htrusted, List.forall_mem_singleton]
    exact hown.checkAnchor_eq_ok
  have hbuilt := AnyDraft.builtBy_of_build hserver
  have hfound : (client.find plan.host).value = some office := by
    have hregistered : registeredBy clientCalls = [(.exact "office.org", office), (.any, own)] := by rfl
    have hspelling : HostName.canonical plan.host = HostName.canonical "office.org" := by decide +kernel
    rw [Profile.value_find, (AnyDraft.builtBy_of_build hclient).identities_eq, hregistered,
      IdentityTable.find?_congr _ hspelling]
    rfl
  have hpresented : (server.findIndicated (some "a.com")).value = some own := by
    have hregistered : registeredBy calls = [(.any, own)] := by rfl
    show (server.find "a.com").value = _
    rw [Profile.value_find, hbuilt.identities_eq, hregistered]
    rfl
  have hsigns : ∀ credential, (client.find plan.host).value = some credential →
      engine.canSign credential.key (engine.schemes (backendOf engine calls)) = true := by
    intro credential hother
    cases hfound.symm.trans hother
    exact Catalogue.canSign_signingKey _
  -- the server takes what the client shows
  have hpassed : Connection.presentClient engine.canSign (client.clientConfigFor plan.host)
      (server.serverConfigFor engine plan.auth) .v13 Samples.time = .ok (some office.chain) := by
    have hasked : plan.auth ≠ .disabled := nofun
    have hcredential : client.credentialShown engine (engine.schemes server.backend) plan.host plan.auth =
        some office := by
      rw [hbuilt.backend_eq, Profile.credentialShown_eq_find hasked hsigns, hfound]
    have halone : (Samples.cliSample.entryWith officeCertificate).StandsAlone Samples.time :=
      Sample.standsAlone_entryWith rfl rfl (by decide) (by decide) officeCertificate
    refine Profile.presentClient_eq_ok_iff.mpr ⟨?_, fun credential h => ?_, nofun⟩
    · rw [hcredential, Option.map_some]
    · cases hcredential.symm.trans h
      exact hoffice.judgeClient_eq_ok halone List.mem_cons_self _ _ .v13 "office"
  -- and the client what the server presents
  have hcompleted : (engine.handshake (client.clientConfigFor plan.host)
      (server.serverConfigFor engine plan.auth) (.dns "a.com") Samples.time).run.value = .ok connection := by
    have halone : (Samples.aSample.entryWith ownCertificate).StandsAlone Samples.time :=
      Sample.standsAlone_entryWith rfl rfl (by decide) (by decide) ownCertificate
    have hverifier : (client.clientConfigFor plan.host).verifier =
        engine.chainVerifier .standard [.certificate ownCertificate] := rfl
    have hsubject : Samples.aSample.subjects.any (·.isFor (.dns "a.com")) = true := by decide +kernel
    have hindicated : Connection.indicatedName (client.clientConfigFor plan.host) (.dns "a.com") =
        some "a.com" := by
      show some (HostName.canonical "a.com") = _
      decide +kernel
    exact hown.handshake_eq_ok halone List.mem_cons_self hverifier rfl rfl rfl hsubject hindicated hpresented
      hpassed
  have hpeer : PeerName.ofText? plan.peer = some (.dns "a.com") := by decide +kernel
  have hends : plan.EndsWith engine Samples.time client server (.completed connection) :=
    (HandshakePlan.endsWith_completed_iff hbuilt.anchors_ne_nil).mpr ⟨rfl, rfl, _, hpeer, hcompleted⟩
  have hengine : engine.JudgesClients := (Catalogue.goesByStep Samples.catalogue).judgesClients
  obtain ⟨_, hoptional, _, _, hverified, _⟩ :=
    clients_admitted_as_demanded hengine Samples.time plan hserver hends
  exact ⟨hclient, hserver, hends, hsigns, hoptional rfl hsigns, hverified _ rfl⟩

end TlsIdentity
