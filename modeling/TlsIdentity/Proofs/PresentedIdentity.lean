import TlsIdentity.Proofs.KnownCertificates
import TlsIdentity.Proofs.RegistrationOrder
import TlsIdentity.Proofs.RunParts

/-!
# Whom a server presents

A client that tells the server its name gets the credential for that name, and every other client gets
the fallback. In which spelling the engine tells the name makes no difference to look-up. A client that tells
no name is looked up as `*`: no text stands for a single host of that name, and no level holds it, so only the
fallback is left. That what is looked up is what is presented is up to the engine (`Engine.PresentsFound`).
-/

namespace TlsIdentity

/-! ## Look-up -/

namespace IdentityTable

variable {α : Type}

/-- Where no single host is registered as `*`, looking for `*` finds the fallback. -/
theorem find?_anyText {history : History α}
    (h : .exact HostPattern.anyText ∉ history.map (·.1)) :
    (ofHistory history).find? HostPattern.anyText = (ofHistory history).fallback := by
  have hrecords := records_ofHistory history
  have hcanonical : HostName.canonical HostPattern.anyText = HostPattern.anyText := by decide
  have hlevel : HostPattern.afterFirstDot? HostPattern.anyText = none := by decide
  rw [hrecords.find?_eq, History.resolve?_eq, hcanonical, hlevel, History.lastFor_eq_none_iff.mpr h,
    hrecords.fallback_eq]
  rfl

end IdentityTable

/-- No run registers a credential for a single host named `*`. -/
theorem exact_anyText_notMem_registeredBy (calls : List ClientCall) :
    .exact HostPattern.anyText ∉ (registeredBy calls).map (·.1) := by
  intro hmem
  obtain ⟨text, htext⟩ := exists_text_of_mem_registeredBy hmem
  exact absurd (HostPattern.ofText?_eq_some_exact_iff.mp htext).2 (by decide)

/-! ## Servers -/

namespace Profile

/-- The credential of `server` that `client` is to see when it reaches it as `peer`: the one for the name, if
    the client's customizers let it tell the name, and else the fallback. An address is never told. -/
def identityAskedBy (server client : Profile) : PeerName → Option Credential
  | .dns name =>
    if (client.customizers.applyClient {}).indicatesName then (server.find name).value
    else server.identities.fallback
  | .ipv4 _ => server.identities.fallback
  | .ipv6 _ => server.identities.fallback

variable {server client : Profile} {engine : Engine} {calls : List ClientCall} {host : String} {peer : PeerName}

theorem BuiltBy.findIndicated_none (h : server.BuiltBy engine calls) :
    (server.findIndicated none).value = server.identities.fallback := by
  rw [findIndicated, value_find, h.identities_eq]
  exact IdentityTable.find?_anyText (exact_anyText_notMem_registeredBy calls)

/-- **The server looks for what the client is to see**, whatever spelling of its name it is told. -/
theorem BuiltBy.findIndicated_of_tells (h : server.BuiltBy engine calls) {told : Option String}
    (htells : (client.clientConfigFor host).Tells peer told) :
    (server.findIndicated told).value = server.identityAskedBy client peer := by
  cases htells with
  | @name name spelling hindicates hspelling =>
    have htold : (client.customizers.applyClient {}).indicatesName = true := hindicates
    rw [identityAskedBy, if_pos htold]
    show (server.find spelling).value = _
    rw [value_find, value_find]
    exact server.identities.find?_congr hspelling
  | nothing hindicates =>
    have hwithheld : (client.customizers.applyClient {}).indicatesName = false := hindicates
    rw [identityAskedBy, if_neg (by rw [hwithheld]; exact Bool.false_ne_true)]
    exact h.findIndicated_none
  | ipv4 address | ipv6 address => exact h.findIndicated_none

end Profile

/-- **The server presents the identity of the name that the client asked for.** Let a handshake between any
    client's profile and a server's, built by any run of calls, be begun, under whatever host, name and
    demand on clients, with an engine that presents what the server's configuration finds.

    * If it is completed, the server presented the chain of the credential for the name, where the client
      tells the name, or else that of its fallback.
    * If the server has no such credential, it fails for want of one, or before that for want of a common
      version.
    * In which spelling the server is told the name makes no difference. -/
theorem server_presents_asked_identity {engine : Engine} (hengine : engine.PresentsFound) (time : Nat)
    (plan : HandshakePlan) {role : Role} {calls : List ClientCall} {client server : Profile} {peer : PeerName}
    {result : HandshakeResult}
    (hserver : ((AnyDraft.ofRun role calls).build engine).run.value = .ok server)
    (hpeer : PeerName.ofText? plan.peer = some peer)
    (hends : plan.EndsWith engine time client server result) :
    (∀ connection, result = .completed connection →
      ∃ credential, server.identityAskedBy client peer = some credential ∧
        connection.serverChain = credential.chain) ∧
    (server.identityAskedBy client peer = none →
      ∃ clientFault serverFault, result = .failed clientFault serverFault ∧
        (serverFault = .noIdentity ∨ serverFault = .noCommonVersion)) ∧
    ∀ told name, HostName.canonical told = HostName.canonical name →
      (server.findIndicated (some told)).value = (server.find name).value := by
  have hbuilt := AnyDraft.builtBy_of_build hserver
  have hnamed : peer.IsNamed := ⟨plan.peer, hpeer⟩
  refine ⟨?_, ?_, ?_⟩
  · rintro connection rfl
    obtain ⟨_, _, own, hown, hcompleted⟩ :=
      (HandshakePlan.endsWith_completed_iff hbuilt.anchors_ne_nil).mp hends
    cases hpeer.symm.trans hown
    obtain ⟨htells, credential, hfound, hchain⟩ := hengine.presented hnamed hcompleted
    exact ⟨credential, (hbuilt.findIndicated_of_tells htells).symm.trans hfound, hchain⟩
  · intro hnone
    obtain ⟨_, _, own, hown, houtcome⟩ := (HandshakePlan.endsWith_iff hbuilt.anchors_ne_nil).mp hends
    cases hpeer.symm.trans hown
    have hlooked : ∀ told, (client.clientConfigFor plan.host).Tells peer told →
        ((server.serverConfigFor engine plan.auth).identityFor told).value = none :=
      fun told htells => (hbuilt.findIndicated_of_tells htells).trans hnone
    -- a handshake that cannot be begun has no result; otherwise the server fails
    rcases hengine.gives_up time hnamed hlooked with h | ⟨clientFault, serverFault, h, hfault⟩
    · rw [h] at houtcome
      cases houtcome
    · rw [h] at houtcome
      cases houtcome
      exact ⟨clientFault, serverFault, rfl, hfault⟩
  · intro told name hspelling
    show (server.find told).value = _
    rw [Profile.value_find, Profile.value_find]
    exact server.identities.find?_congr hspelling

/-- A client reaches a host under `com` in a spelling of its own and sees the credential that was registered for
    that level in another. It trusts the certificate, which is for the host, and believes the signature. -/
theorem level_presented_to_respelled_peer :
    let engine := Samples.catalogue.engine
    ∃ own other, Samples.catalogue.credential? "own" ["a"] = some own ∧
      Samples.catalogue.credential? "other" ["cli"] = some other ∧
      let calls : List ClientCall := [.common (.setFallback other), .common (.set "*.Com" own)]
      let client := (AnyDraft.ofRun .client [.common (.trust own.chain)]).frozen engine
      let server := (AnyDraft.ofRun .server calls).frozen engine
      let plan : HandshakePlan := ⟨"client", "server", "host", .disabled, "A.COM."⟩
      let connection : Connection := ⟨.v13, own.chain, none, some "a.com", none⟩
      ((AnyDraft.ofRun .server calls).build engine).run.value = .ok server ∧
        plan.EndsWith engine Samples.time client server (.completed connection) ∧
        ∃ credential, server.identityAskedBy client (.dns "A.COM.") = some credential ∧
          connection.serverChain = credential.chain := by
  intro engine
  obtain ⟨ownCertificate, otherCertificate, hown, hother⟩ := Samples.exists_finds
  refine ⟨_, _, hown.credential?_eq "own", hother.credential?_eq "other", ?_⟩
  intro calls client server plan connection
  let own := (Samples.aSample.entryWith ownCertificate).alone "own"
  let other := (Samples.cliSample.entryWith otherCertificate).alone "other"
  have hserver : ((AnyDraft.ofRun .server calls).build engine).run.value = .ok server :=
    AnyDraft.build_of_trustedBy_eq_nil rfl .server engine
  have hbuilt := AnyDraft.builtBy_of_build hserver
  have hpeer : PeerName.ofText? plan.peer = some (.dns "A.COM.") := by decide +kernel
  have hpresented : (server.findIndicated (some "a.com")).value = some own := by
    have hregistered : registeredBy calls = [(.any, other), (.below "com", own)] := by rfl
    show (server.find "a.com").value = _
    rw [Profile.value_find, hbuilt.identities_eq, hregistered]
    rfl
  have hcompleted : (engine.handshake (client.clientConfigFor plan.host)
      (server.serverConfigFor engine plan.auth) (.dns "A.COM.") Samples.time).run.value = .ok connection := by
    have halone : (Samples.aSample.entryWith ownCertificate).StandsAlone Samples.time :=
      Sample.standsAlone_entryWith rfl rfl (by decide) (by decide) ownCertificate
    have hverifier : (client.clientConfigFor plan.host).verifier =
        engine.chainVerifier .standard [.certificate ownCertificate] := rfl
    have hsubject : Samples.aSample.subjects.any (·.isFor (.dns "A.COM.")) = true := by decide +kernel
    have hindicated : Connection.indicatedName (client.clientConfigFor plan.host) (.dns "A.COM.") =
        some "a.com" := by
      show some (HostName.canonical "A.COM.") = _
      decide +kernel
    have hunadjusted : (server.serverConfigFor engine plan.auth).settings = {} := rfl
    exact hown.handshake_eq_ok halone List.mem_cons_self hverifier rfl hunadjusted rfl hsubject hindicated
      hpresented rfl
  have hends : plan.EndsWith engine Samples.time client server (.completed connection) :=
    (HandshakePlan.endsWith_completed_iff hbuilt.anchors_ne_nil).mpr ⟨rfl, rfl, _, hpeer, hcompleted⟩
  have hengine : engine.PresentsFound := (Catalogue.goesByStep Samples.catalogue).presentsFound
  exact ⟨hserver, hends,
    (server_presents_asked_identity hengine Samples.time plan hserver hpeer hends).1 connection rfl⟩

end TlsIdentity
