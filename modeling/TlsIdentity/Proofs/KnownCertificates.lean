import TlsIdentity.Catalogue.Samples
import TlsIdentity.Proofs.BuiltProfiles
import TlsIdentity.Proofs.HandshakeSteps

/-!
# Engines that know their certificates

Handshakes of an engine over a catalogue go step by step, so it does all that is relied on of an engine. What is
more, they succeed: a certificate that is its own issuer is believed wherever it is trusted, on either side, and its
key signs for it (`Catalogue.Finds.handshake_eq_ok`). All that is asked of the catalogue is that it finds the entry
under its name and its certificate. The samples are such entries. Which bytes their certificates have need not be
known for this, only that no two of them have the same, and their lengths say so.
-/

namespace TlsIdentity

/-! ## Entries -/

namespace CatalogueEntry

/-- The credential of the entry, presented without any other certificate. -/
def alone (entry : CatalogueEntry) (label : String) : Credential where
  label := label
  chain := [entry.certificate]
  key := entry.signingKey

/-- The entry is issued by itself, is no authority and is valid at the time. -/
structure StandsAlone (entry : CatalogueEntry) (time : Nat) : Prop where
  self_issued : entry.issuer = entry.name
  plain : entry.isAuthority = false
  begun : entry.notBefore ≤ time
  lasts : time ≤ entry.notAfter

end CatalogueEntry

namespace Catalogue

variable {catalogue : Catalogue} {entry : CatalogueEntry} {anchors : List TrustAnchor} {time : Nat}

theorem known?_cons_self (entry : CatalogueEntry) (rest : Catalogue) :
    known? (entry :: rest) entry.certificate = some entry :=
  List.find?_cons_of_pos (decide_eq_true rfl)

theorem known?_cons_of_ne {first : CatalogueEntry} {certificate : Certificate}
    (h : first.certificate ≠ certificate) (rest : Catalogue) :
    known? (first :: rest) certificate = known? rest certificate := by
  unfold known?
  exact List.find?_cons_of_neg (by simpa using h)

/-- The entry is the one that is found by its name, and by its certificate. -/
structure Finds (catalogue : Catalogue) (entry : CatalogueEntry) : Prop where
  named : catalogue.named? entry.name = some entry
  known : catalogue.known? entry.certificate = some entry

/-- The handshakes of an engine over a catalogue go step by step. -/
theorem goesByStep (catalogue : Catalogue) : catalogue.engine.GoesByStep :=
  rfl

/-- A key of any kind signs by some scheme that the engine takes. -/
theorem canSign_signingKey (entry : CatalogueEntry) : canSign entry.signingKey signatureSchemes = true := by
  show entry.algorithm.schemes.any signatureSchemes.contains = true
  cases entry.algorithm <;> decide

namespace Finds

theorem credential?_eq (h : catalogue.Finds entry) (label : String) :
    catalogue.credential? label [entry.name] = some (entry.alone label) := by
  unfold credential?
  simp only [h.named]
  rfl

theorem checkAnchor_eq_ok (h : catalogue.Finds entry) :
    catalogue.engine.checkAnchor entry.certificate = .ok () := by
  show catalogue.checkAnchor entry.certificate = .ok ()
  unfold checkAnchor
  rw [h.known]

/-- **The key of a certificate signs for it**, on either side and in either version. -/
theorem checkSignature_eq_ok (h : catalogue.Finds entry) (version : TlsVersion) (side : Side) :
    catalogue.checkSignature (Connection.signatureQuestion version side entry.certificate entry.signingKey) =
      .ok () := by
  unfold checkSignature Connection.signatureQuestion
  simp only [h.known, CatalogueEntry.signingKey, ne_eq, not_true_eq_false, if_false, if_true]

/-- A self-signed certificate that is trusted needs no other. -/
theorem checkChain_eq_ok (h : catalogue.Finds entry) (halone : entry.StandsAlone time)
    (htrusted : .certificate entry.certificate ∈ anchors) :
    catalogue.checkChain anchors entry.certificate [] time = .ok entry := by
  have hanchored : catalogue.isAnchored anchors [] 0 entry = true := by
    unfold isAnchored
    simp only [halone.self_issued, h.named, Bool.or_false, List.contains_iff_mem]
    exact htrusted
  unfold checkChain
  simp only [h.known, if_neg (Nat.not_lt.mpr halone.begun), if_neg (Nat.not_lt.mpr halone.lasts), halone.plain,
    List.length_nil, hanchored, Bool.false_eq_true, if_false, if_true]

/-- So a client that trusts it believes a server that presents it and is reached by a name in it. -/
theorem judgeServer_eq_ok (h : catalogue.Finds entry) (halone : entry.StandsAlone time)
    (htrusted : .certificate entry.certificate ∈ anchors) {client : ClientConfig} {backend : Backend}
    (hverifier : client.verifier = catalogue.engine.chainVerifier backend anchors) {peer : PeerName}
    (hpeer : entry.subjects.any (·.isFor peer) = true) (version : TlsVersion) (label : String) :
    (Connection.judgeServer client version (entry.alone label) peer time).run.value = .ok () := by
  have hchain : catalogue.checkServer anchors ⟨entry.certificate, [], peer, [], time⟩ = .ok () := by
    unfold checkServer
    rw [h.checkChain_eq_ok halone htrusted]
    exact if_pos hpeer
  rw [Connection.judgeServer_eq_ok_iff, hverifier]
  exact ⟨entry.certificate, [], rfl, Attempt.value_ofExcept_eq_ok_iff.mpr hchain,
    h.checkSignature_eq_ok version .server⟩

/-- And a server that trusts it accepts a client that presents it. -/
theorem judgeClient_eq_ok (h : catalogue.Finds entry) (halone : entry.StandsAlone time)
    (htrusted : .certificate entry.certificate ∈ anchors) (backend : Backend) (required : Bool)
    (version : TlsVersion) (label : String) :
    Connection.judgeClient (catalogue.engine.clientVerifierOver backend anchors required) version
      (entry.alone label) time = .ok () := by
  have hchain : catalogue.checkClient anchors [entry.certificate] time = .ok () := by
    unfold checkClient
    simp only [h.checkChain_eq_ok halone htrusted]
    rfl
  exact Connection.judgeClient_eq_ok_iff.mpr
    ⟨hchain, entry.certificate, [], rfl, h.checkSignature_eq_ok version .client⟩

/-- **A handshake is completed** in which the server presents a certificate that the client trusts and that is for the
    name by which it is reached. Neither side has adjusted anything, and what the client presents lets it pass. -/
theorem handshake_eq_ok (h : catalogue.Finds entry) (halone : entry.StandsAlone time)
    (htrusted : .certificate entry.certificate ∈ anchors) {client : ClientConfig} {server : ServerConfig}
    {backend : Backend} (hverifier : client.verifier = catalogue.engine.chainVerifier backend anchors)
    (hclient : client.settings = {}) (hserver : server.settings = {}) {version : TlsVersion}
    (hversion : Connection.chooseVersion client.backend server.backend = some version) {peer : PeerName}
    (hpeer : entry.subjects.any (·.isFor peer) = true) {indicated : Option String}
    (hindicated : Connection.indicatedName client peer = indicated) {label : String}
    (hpresented : (server.identityFor indicated).value = some (entry.alone label))
    {clientChain : Option (List Certificate)}
    (hpassed : Connection.presentClient catalogue.engine.canSign client server version time = .ok clientChain) :
    (catalogue.engine.handshake client server peer time).run.value =
      .ok ⟨version, [entry.certificate], clientChain, indicated, none⟩ := by
  subst hindicated
  have hsigns : canSign entry.signingKey client.verifier.schemes = true := by
    rw [hverifier]
    exact canSign_signingKey entry
  refine catalogue.goesByStep.handshake_eq_ok_iff.mpr ⟨entry.alone label, ?_⟩
  exact {
    client_fragment := by rw [hclient]; rfl
    server_fragment := by rw [hserver]; rfl
    version_eq := hversion
    presented := hpresented
    protocol_eq := by rw [hclient, hserver]; rfl
    signs := hsigns
    believed := h.judgeServer_eq_ok halone htrusted hverifier hpeer version label
    clientChain_eq := hpassed
    serverChain_eq := rfl
    indicated_eq := rfl }

end Finds

end Catalogue

/-! ## Samples -/

theorem Text.encode_ofList (chars : List Char) :
    encode (String.ofList chars) = chars.flatMap String.utf8EncodeChar := by
  rw [encode, String.toList_ofList]

theorem Text.encode_append (first later : String) : encode (first ++ later) = encode first ++ encode later := by
  rw [encode, String.toList_append, List.flatMap_append, encode, encode]

theorem Text.encode_join (parts : List String) : encode (String.join parts) = parts.flatMap encode := by
  rw [encode, String.toList_join, List.flatMap_assoc]
  rfl

theorem Pem.encode_sectionText (label : String) (body : List String) :
    Text.encode (sectionText label body) =
      Text.encode "-----BEGIN " ++ Text.encode label ++ Text.encode "-----\n" ++
        (body.flatMap fun line => Text.encode line ++ Text.encode "\n") ++
        Text.encode "-----END " ++ Text.encode label ++ Text.encode "-----\n" := by
  show Text.encode ("-----BEGIN " ++ label ++ "-----\n" ++ String.join (body.map (· ++ "\n")) ++ "-----END " ++
    label ++ "-----\n") = _
  simp only [Text.encode_append, Text.encode_join, List.flatMap_map]

/-- A sample whose text is one certificate has an entry. -/
theorem Sample.exists_entry?_eq {sample : Sample} {length : Nat}
    (h : (Pem.certificates (Text.encode sample.certText)).map (·.map (·.der.length)) = .ok [length]) :
    ∃ certificate, sample.entry? = some (sample.entryWith certificate) ∧ certificate.der.length = length := by
  obtain ⟨certificates, hread, hlengths⟩ := map_eq_ok_iff.mp h
  obtain ⟨certificate, rfl, hlength⟩ := List.map_eq_singleton_iff.mp hlengths
  refine ⟨certificate, ?_, hlength⟩
  unfold entry?
  rw [hread]

theorem Sample.standsAlone_entryWith {sample : Sample} {time : Nat} (hself : sample.issuer = sample.name)
    (hplain : sample.isAuthority = false) (hbegun : sample.notBefore ≤ time) (hlasts : time ≤ sample.notAfter)
    (certificate : Certificate) : (sample.entryWith certificate).StandsAlone time :=
  ⟨hself, hplain, hbegun, hlasts⟩

/-- The texts of the first three samples are one certificate each, told apart by their lengths. Each text is taken
    apart line by line first, since lines are all that can be evaluated at once. -/
theorem Samples.map_length_certificates :
    ([aSample, caSample, cliSample].map fun sample =>
      (Pem.certificates (Text.encode sample.certText)).map (·.map (·.der.length))) =
      [.ok [330], .ok [357], .ok [332]] := by
  rw [List.map_cons, List.map_cons, List.map_cons, aSample, caSample, cliSample, Pem.encode_sectionText,
    Pem.encode_sectionText, Pem.encode_sectionText]
  simp only [List.flatMap_cons, List.flatMap_nil]
  repeat rw [Text.encode_ofList]
  decide +kernel

/-- The catalogue of the samples finds the first one, and that of the client. -/
theorem Samples.exists_finds : ∃ own client,
    catalogue.Finds (aSample.entryWith own) ∧ catalogue.Finds (cliSample.entryWith client) := by
  have hlengths := map_length_certificates
  simp only [List.map_cons, List.map_nil, List.cons.injEq, and_true] at hlengths
  obtain ⟨hown, hauthority, hclient⟩ := hlengths
  obtain ⟨own, hown, hownLength⟩ := Sample.exists_entry?_eq hown
  obtain ⟨authority, hauthority, hauthorityLength⟩ := Sample.exists_entry?_eq hauthority
  obtain ⟨client, hclient, hclientLength⟩ := Sample.exists_entry?_eq hclient
  have hcatalogue : catalogue = aSample.entryWith own :: caSample.entryWith authority ::
      cliSample.entryWith client :: (all.drop 3).filterMap Sample.entry? := by
    show (aSample :: caSample :: cliSample :: all.drop 3).filterMap Sample.entry? = _
    rw [List.filterMap_cons_some hown, List.filterMap_cons_some hauthority, List.filterMap_cons_some hclient]
  have hownOther : own ≠ client := by
    rintro rfl
    omega
  have hauthorityOther : authority ≠ client := by
    rintro rfl
    omega
  refine ⟨own, client, ⟨?_, ?_⟩, ⟨?_, ?_⟩⟩ <;> rw [hcatalogue]
  · rfl
  · exact Catalogue.known?_cons_self _ _
  · rfl
  · rw [Catalogue.known?_cons_of_ne hownOther, Catalogue.known?_cons_of_ne hauthorityOther]
    exact Catalogue.known?_cons_self _ _

end TlsIdentity
