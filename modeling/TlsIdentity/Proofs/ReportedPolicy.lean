import TlsIdentity.Proofs.BypassScope
import TlsIdentity.Proofs.PeerSpellings

/-!
# The policy that is reported and the one that is carried out

A policy tells about a text whether it skips verification (`skips`); a verifier decides about a peer
(`exempts`). The first looks for the canonical form of the text among the chosen hosts, the second for the
host text of the peer that the text names. These are one text, so the two agree, unless the peer is an
IPv6 address in a spelling other than its own. There they part where just one of the two texts is chosen:
an address that is listed in such a spelling is reported as skipped and is verified all the same.
-/

namespace TlsIdentity

namespace TrustPolicy

/-- The policy says of `text` something else than its verifier does about `peer`: the peer is an IPv6
    address, and just one of its own text and the canonical form of `text` is a chosen host. -/
def Misreports (policy : TrustPolicy) (text : String) (peer : PeerName) : Prop :=
  ∃ hosts address, policy = .skipHosts hosts ∧ peer = .ipv6 address ∧
    ¬ (HostName.canonical text ∈ hosts.toList ↔ address.toText ∈ hosts.toList)

variable {policy : TrustPolicy} {text : String} {peer : PeerName}

/-- Where text and peer are known under one name, the two decisions are one. -/
theorem exempts_eq_skips (h : HostName.canonical text = peer.hostText) :
    policy.exempts peer = policy.skips text := by
  cases policy with
  | verifyAll => rfl
  | skipAll => rfl
  | skipHosts hosts => rw [exempts, skips, h]

/-- **The two decisions agree exactly where the policy does not misreport.** -/
theorem exempts_iff_skips_iff (hpeer : PeerName.ofText? text = some peer) :
    (policy.exempts peer = true ↔ policy.skips text = true) ↔ ¬ policy.Misreports text peer := by
  constructor
  · rintro hagree ⟨hosts, address, rfl, rfl, hdiffer⟩
    apply hdiffer
    rw [exempts, skips, HostSet.contains_iff, HostSet.contains_iff] at hagree
    exact hagree.symm
  · intro hright
    by_cases hkind : ∀ address, peer ≠ .ipv6 address
    · rw [exempts_eq_skips (PeerName.canonical_eq_hostText hpeer hkind)]
    · -- an IPv6 address: only a list of chosen hosts can tell its two texts apart
      obtain ⟨address, haddress⟩ := Classical.not_forall.mp hkind
      have hipv6 := Classical.not_not.mp haddress
      cases policy with
      | verifyAll => exact Iff.rfl
      | skipAll => exact Iff.rfl
      | skipHosts hosts =>
        rw [exempts, skips, HostSet.contains_iff, HostSet.contains_iff, hipv6, PeerName.hostText]
        refine Classical.not_not.mp fun hdiffer => hright ⟨hosts, address, rfl, hipv6, ?_⟩
        exact fun hsame => hdiffer hsame.symm

end TrustPolicy

namespace ClientDraft

/-- The draft that was told to leave this one text unverified, and nothing else. -/
def listing (text : String) : ClientDraft :=
  empty.run [.exemption (.exemptHosts [text])]

theorem listing_eq {text : String} (h : HostPattern.isSingleHost text = true) :
    listing text = ⟨{}, .chosen (HostSet.ofList [HostName.canonical text])⟩ := by
  have hfit := Exemption.firstUnfit?_eq_none_iff.mpr (List.forall_mem_singleton.mpr h)
  have hcall : empty.call (.exemption (.exemptHosts [text])) =
      .ok ⟨{}, .chosen (HostSet.ofList [HostName.canonical text])⟩ := by
    rw [call_exemption, Exemption.call, Exemption.exemptHosts_eq (by rintro ⟨⟩), hfit]
    rfl
  show runFrom ClientDraft.call empty [.exemption (.exemptHosts [text])] = _
  rw [runFrom_cons_ok hcall]
  rfl

theorem build_listing (text : String) (engine : Engine) :
    ∃ profile, ((listing text).build engine).run.value = .ok profile := by
  have htrusted : (listing text).common.trusted = [] := trusted_run [.exemption (.exemptHosts [text])]
  exact ⟨_, Draft.freeze_of_trusted_eq_nil htrusted engine _⟩

/-- A client that lists one text believes unseen the peers that are known under its canonical form. -/
theorem believesUnseen_listing_iff {text : String} (h : HostPattern.isSingleHost text = true)
    (engine : Engine) (question : ChainQuestion) :
    (listing text).BelievesUnseen engine question ↔
      HostName.canonical text = question.peer.hostText := by
  obtain ⟨profile, hprofile⟩ := build_listing text engine
  have hpolicy : profile.trust = .skipHosts (HostSet.ofList [HostName.canonical text]) := by
    rw [(Draft.freeze_eq_ok_iff.mp hprofile).2, listing_eq h]
    rfl
  rw [believesUnseen_iff hprofile, hpolicy, TrustPolicy.exempts, HostSet.contains_iff,
    HostSet.mem_ofList, List.mem_singleton]
  exact eq_comm

/-- **What is reported of a name is what is done, unless the name misspells an IPv6 address.** For every
    text that names a peer:

    * after any run of calls the profile says that the text is skipped exactly if it believes the peer's
      chains unseen, or else the policy misreports, and then just one of the two is so;
    * a client that lists exactly this text believes the peer's chains unseen exactly if the canonical form
      of the text is the text under which the peer is known;
    * this is the case for every spelling of a DNS name or an IPv4 address. -/
theorem reported_iff_enforced (engine : Engine) (text : String) (question : ChainQuestion)
    (hpeer : PeerName.ofText? text = some question.peer) :
    (∀ calls profile, ((empty.run calls).build engine).run.value = .ok profile →
      (((empty.run calls).BelievesUnseen engine question ↔ profile.trust.skips text = true) ↔
        ¬ profile.trust.Misreports text question.peer)) ∧
    (HostPattern.isSingleHost text = true →
      (∃ profile, ((listing text).build engine).run.value = .ok profile) ∧
      ((listing text).BelievesUnseen engine question ↔
        HostName.canonical text = question.peer.hostText)) ∧
    ((∀ address, question.peer ≠ .ipv6 address) → HostName.canonical text = question.peer.hostText) := by
  refine ⟨?_, ?_, ?_⟩
  · intro calls profile hbuild
    rw [believesUnseen_iff hbuild]
    exact TrustPolicy.exempts_iff_skips_iff hpeer
  · intro hsingle
    exact ⟨build_listing text engine, believesUnseen_listing_iff hsingle engine question⟩
  · exact PeerName.canonical_eq_hostText hpeer

/-- An IPv6 address in capital letters is believed unseen once it is listed. -/
theorem enforced_capital_ipv6 :
    ∃ peer, PeerName.ofText? "FE80::1" = some peer ∧
      (listing "FE80::1").BelievesUnseen (Catalogue.engine []) (.about peer) := by
  have hpeer : PeerName.ofText? "FE80::1" = some (.ipv6 ⟨[0xfe80, 0, 0, 0, 0, 0, 0, 1], rfl⟩) := by
    decide
  obtain ⟨_, hlisting, _⟩ := reported_iff_enforced (Catalogue.engine []) "FE80::1" (.about _) hpeer
  refine ⟨_, hpeer, (hlisting ?_).2.mpr ?_⟩
  · decide
  · decide

/-- The loopback address, listed with all its zeros, is reported as skipped and yet not believed unseen,
    because its own text is `::1`. -/
theorem reported_unenforced_loopback :
    ∃ peer profile, PeerName.ofText? "0:0:0:0:0:0:0:1" = some peer ∧
      ((listing "0:0:0:0:0:0:0:1").build (Catalogue.engine [])).run.value = .ok profile ∧
      profile.trust.skips "0:0:0:0:0:0:0:1" = true ∧
      ¬ (listing "0:0:0:0:0:0:0:1").BelievesUnseen (Catalogue.engine []) (.about peer) := by
  have hsingle : HostPattern.isSingleHost "0:0:0:0:0:0:0:1" = true := by decide
  obtain ⟨profile, hprofile⟩ := build_listing "0:0:0:0:0:0:0:1" (Catalogue.engine [])
  refine ⟨.ipv6 ⟨[0, 0, 0, 0, 0, 0, 0, 1], rfl⟩, profile, by decide, hprofile, ?_, ?_⟩
  · rw [(Draft.freeze_eq_ok_iff.mp hprofile).2, listing_eq hsingle]
    decide
  · rw [believesUnseen_listing_iff hsingle]
    decide

end ClientDraft

end TlsIdentity
