import TlsIdentity.Catalogue
import TlsIdentity.Proofs.BypassScope
import TlsIdentity.Proofs.Spellings

/-!
# Runs in other spellings

Two runs make the same calls, with every host and every pattern in whatever spelling. Each call then ends
alike in both, and leaves the same draft, since a draft keeps canonical forms alone. So the two drafts are
one, and with them the profiles. Questions are asked in any spelling too: look-up and the policy take
canonical forms, and a peer that is a DNS name is known by its own. Only errors show how a text was
spelled, because they keep it as it was given.
-/

namespace TlsIdentity

open HostName (IsSpelling)

/-! ## Outcomes that agree -/

/-- The outcomes agree: one state, or two errors of one kind. -/
inductive OutcomesAgree {ε σ : Type} (kind : ε → ε → Prop) : Except ε σ → Except ε σ → Prop
  | ok (state : σ) : OutcomesAgree kind (.ok state) (.ok state)
  | error {error other : ε} : kind error other → OutcomesAgree kind (.error error) (.error other)

section

variable {ε σ κ : Type} {kind : ε → ε → Prop} {outcome outcome' : Except ε σ}

namespace OutcomesAgree

theorem refl (hkind : ∀ error, kind error error) (outcome : Except ε σ) :
    OutcomesAgree kind outcome outcome := by
  cases outcome with
  | ok state => exact .ok state
  | error error => exact .error (hkind error)

theorem map {τ : Type} (h : OutcomesAgree kind outcome outcome') (f : σ → τ) :
    OutcomesAgree kind (outcome.map f) (outcome'.map f) := by
  cases h with
  | ok state => exact .ok (f state)
  | error hkind => exact .error hkind

theorem mapError {ε' : Type} {kind' : ε' → ε' → Prop} {wrap : ε → ε'}
    (h : OutcomesAgree kind outcome outcome')
    (hwrap : ∀ error other, kind error other → kind' (wrap error) (wrap other)) :
    OutcomesAgree kind' (outcome.mapError wrap) (outcome'.mapError wrap) := by
  cases h with
  | ok state => exact .ok state
  | error hkind => exact .error (hwrap _ _ hkind)

theorem keepOnError_eq (h : OutcomesAgree kind outcome outcome') (state : σ) :
    keepOnError state outcome = keepOnError state outcome' := by
  cases h <;> rfl

end OutcomesAgree

/-- The outcomes of the calls of a run, one for each. -/
def outcomes (step : σ → κ → Except ε σ) (state : σ) : List κ → List (Except ε σ)
  | [] => []
  | call :: rest => step state call :: outcomes step (keepOnError state (step state call)) rest

/-- **Runs whose calls agree one by one** agree in every outcome and end in one state. -/
theorem runs_agree {step : σ → κ → Except ε σ} {alike : κ → κ → Prop}
    (hstep : ∀ state call other, alike call other →
      OutcomesAgree kind (step state call) (step state other))
    {calls others : List κ} (h : List.Forall₂ alike calls others) (state : σ) :
    List.Forall₂ (OutcomesAgree kind) (outcomes step state calls) (outcomes step state others) ∧
      runFrom step state calls = runFrom step state others := by
  induction h generalizing state with
  | nil => exact ⟨.nil, rfl⟩
  | @cons call other _ _ hfirst _ ih =>
    have hagree := hstep state call other hfirst
    have hnext := hagree.keepOnError_eq state
    obtain ⟨houtcomes, hlast⟩ := ih (keepOnError state (step state call))
    constructor
    · rw [outcomes, outcomes, ← hnext]
      exact .cons hagree houtcomes
    · show runFrom step (keepOnError state (step state call)) _ =
        runFrom step (keepOnError state (step state other)) _
      rw [← hnext, hlast]

end

/-! ## Errors of one kind -/

/-- The errors are the same, or refuse two spellings of one name. -/
inductive ConfigError.SameKind : ConfigError → ConfigError → Prop
  | same (error : ConfigError) : SameKind error error
  | invalidHost {text other : String} :
    IsSpelling text other → SameKind (.invalidHost text) (.invalidHost other)

/-- The errors are the same, or are a draft's errors of one kind. -/
inductive StepError.SameKind : StepError → StepError → Prop
  | same (error : StepError) : SameKind error error
  | config {error other : ConfigError} :
    error.SameKind other → SameKind (.config error) (.config other)

/-! ## Calls in other spellings -/

/-- The calls are the same but for the spelling of a host. -/
inductive DraftCall.Respelled : DraftCall → DraftCall → Prop
  | same (call : DraftCall) : Respelled call call
  | set {host other : String} (credential : Credential) :
    IsSpelling host other → Respelled (.set host credential) (.set other credential)

/-- The calls are the same but for the spelling of hosts. -/
inductive ClientCall.Respelled : ClientCall → ClientCall → Prop
  | common {call other : DraftCall} : call.Respelled other → Respelled (.common call) (.common other)
  | exemptAll : Respelled (.exemption .exemptAll) (.exemption .exemptAll)
  | exemptHosts {hosts others : List String} :
    List.Forall₂ IsSpelling hosts others →
      Respelled (.exemption (.exemptHosts hosts)) (.exemption (.exemptHosts others))

theorem Draft.call_agree {call other : DraftCall} (h : call.Respelled other) (draft : Draft) :
    OutcomesAgree ConfigError.SameKind (draft.call call) (draft.call other) := by
  cases h with
  | same => exact .refl .same _
  | @set host other credential hspelling =>
    have hpattern := HostPattern.ofText?_congr hspelling
    show OutcomesAgree ConfigError.SameKind (draft.set host credential) (draft.set other credential)
    unfold set HostPattern.ofText
    rw [← hpattern]
    cases HostPattern.ofText? host with
    | none => exact .error (.invalidHost hspelling)
    | some pattern => exact .ok _

namespace Exemption

/-- In two spellings of a list of hosts, the first unfit one stands in the same place. -/
theorem firstUnfit?_rel {hosts others : List String} (h : List.Forall₂ IsSpelling hosts others) :
    Option.Rel IsSpelling (firstUnfit? hosts) (firstUnfit? others) := by
  induction h with
  | nil => exact .none
  | @cons host other _ _ hfirst _ ih =>
    have hsingle := HostPattern.isSingleHost_congr hfirst
    unfold firstUnfit? at ih ⊢
    rw [List.find?_cons, List.find?_cons, ← hsingle]
    cases HostPattern.isSingleHost host with
    | true => exact ih
    | false => exact .some hfirst

theorem exemptHosts_agree (exemption : Exemption) {hosts others : List String}
    (h : List.Forall₂ IsSpelling hosts others) :
    OutcomesAgree ConfigError.SameKind (exemption.exemptHosts hosts) (exemption.exemptHosts others) := by
  by_cases hall : exemption = .everybody
  · -- a conflict is found before any host is looked at
    subst hall
    exact .error (.same _)
  · rw [exemptHosts_eq hall, exemptHosts_eq hall, HostName.map_canonical_eq h]
    have hunfit := firstUnfit?_rel h
    generalize firstUnfit? hosts = unfit, firstUnfit? others = unfit' at hunfit
    cases hunfit with
    | none => exact .ok _
    | some hspelling => exact .error (.invalidHost hspelling)

end Exemption

theorem ClientDraft.call_agree {call other : ClientCall} (h : call.Respelled other)
    (client : ClientDraft) :
    OutcomesAgree ConfigError.SameKind (client.call call) (client.call other) := by
  cases h with
  | common hcall =>
    rw [call_common, call_common]
    exact (client.common.call_agree hcall).map _
  | exemptAll => exact .refl .same _
  | exemptHosts hhosts =>
    rw [call_exemption, call_exemption]
    exact (client.exemption.exemptHosts_agree hhosts).map _

namespace AnyDraft

/-- **One call in two spellings** ends alike on any draft. -/
theorem call_agree {call other : ClientCall} (h : call.Respelled other) (any : AnyDraft) :
    OutcomesAgree StepError.SameKind (any.call call) (any.call other) := by
  cases any with
  | client draft =>
    rw [call_client, call_client]
    exact ((draft.call_agree h).mapError fun _ _ => .config).map _
  | server draft =>
    cases h with
    | common hcall =>
      rw [call_server_common, call_server_common]
      exact ((draft.call_agree hcall).mapError fun _ _ => .config).map _
    | exemptAll => exact .error (.same _)
    | exemptHosts _ => exact .error (.same _)

/-! ## Believing unseen -/

/-- The profile of the draft can be made and accepts the chain of `question`, however the engine judges
    chains. -/
def BelievesUnseen (any : AnyDraft) (engine : Engine) (question : ChainQuestion) : Prop :=
  ∀ judge, ∃ profile, (any.build (engine.withJudge judge)).run.value = .ok profile ∧
    (profile.verifier.verifyChain question).run.value = .ok ()

/-- A server's draft believes what a client's does that was told to spare nobody. -/
theorem believesUnseen_iff {any : AnyDraft} {engine : Engine} {profile : Profile}
    (hbuild : (any.build engine).run.value = .ok profile) (question : ChainQuestion) :
    any.BelievesUnseen engine question ↔ profile.trust.exempts question.peer = true := by
  cases any with
  | client draft => exact ClientDraft.believesUnseen_iff hbuild question
  | server draft =>
    let client : ClientDraft := { common := draft }
    have hclient : (client.build engine).run.value = .ok profile := hbuild
    exact ClientDraft.believesUnseen_iff hclient question

end AnyDraft

/-! ## Questions in other spellings -/

theorem TrustPolicy.skips_congr {host other : String} (policy : TrustPolicy) (h : IsSpelling host other) :
    policy.skips host = policy.skips other := by
  unfold skips
  rw [HostName.canonical_eq_iff.mpr h]

theorem TrustPolicy.exempts_congr {host other : String} (policy : TrustPolicy)
    (h : IsSpelling host other) : policy.exempts (.dns host) = policy.exempts (.dns other) := by
  have hname : (PeerName.dns host).hostText = (PeerName.dns other).hostText :=
    HostName.canonical_eq_iff.mpr h
  unfold exempts
  rw [hname]

theorem Profile.value_find_congr {host other : String} (profile : Profile) (h : IsSpelling host other) :
    (profile.find host).value = (profile.find other).value := by
  rw [value_find, value_find, profile.identities.find?_congr (HostName.canonical_eq_iff.mpr h)]

/-! ## Two runs -/

/-- **Spelling never matters.** Let two runs make the same calls in any spelling of their hosts, on drafts
    of either kind.

    * Call for call both succeed or both fail, and then with errors of one kind.
    * Both builds report the same and end alike, in the same error or in the same profile.
    * So the profiles list the same set of single hosts, the same other patterns in the same order and as many
      of all, and have the same policy. Asked for two spellings of a host, they find one credential, report one
      policy, and believe the same chains unseen.

    And canonical forms bring together nothing else: names with the same one are spellings of one name. -/
theorem spelling_never_matters (engine : Engine) (role : Role) {first second : List ClientCall}
    (h : List.Forall₂ ClientCall.Respelled first second) :
    List.Forall₂ (OutcomesAgree StepError.SameKind) (outcomes AnyDraft.call (.empty role) first)
      (outcomes AnyDraft.call (.empty role) second) ∧
    (AnyDraft.ofRun role first).build engine = (AnyDraft.ofRun role second).build engine ∧
    (∀ profile other, ((AnyDraft.ofRun role first).build engine).run.value = .ok profile →
      ((AnyDraft.ofRun role second).build engine).run.value = .ok other →
      (∀ name, name ∈ profile.identities.exactNames ↔ name ∈ other.identities.exactNames) ∧
      profile.identities.starPatterns = other.identities.starPatterns ∧
      profile.identities.size = other.identities.size ∧
      profile.trust = other.trust ∧
      ∀ host spelling, IsSpelling host spelling →
        (profile.find host).value = (other.find spelling).value ∧
        profile.trust.skips host = other.trust.skips spelling ∧
        ∀ question asked : ChainQuestion, question.peer = .dns host → asked.peer = .dns spelling →
          ((AnyDraft.ofRun role first).BelievesUnseen engine question ↔
            (AnyDraft.ofRun role second).BelievesUnseen engine asked)) ∧
    ∀ name other, HostName.canonical name = HostName.canonical other → IsSpelling name other := by
  have hstep : ∀ (any : AnyDraft) (call other : ClientCall), call.Respelled other →
      OutcomesAgree StepError.SameKind (any.call call) (any.call other) :=
    fun any _ _ hcall => any.call_agree hcall
  obtain ⟨houtcomes, hrun⟩ := runs_agree hstep h (AnyDraft.empty role)
  have hdraft : AnyDraft.ofRun role first = AnyDraft.ofRun role second := hrun
  refine ⟨houtcomes, by rw [hdraft], ?_, fun _ _ => HostName.canonical_eq_iff.mp⟩
  intro profile other hprofile hother
  have hsame : profile = other := by
    rw [hdraft, hother] at hprofile
    exact (Except.ok.inj hprofile).symm
  subst hsame
  refine ⟨fun _ => Iff.rfl, rfl, rfl, rfl, ?_⟩
  intro host spelling hspelling
  refine ⟨profile.value_find_congr hspelling, profile.trust.skips_congr hspelling, ?_⟩
  intro question asked hquestion hasked
  rw [AnyDraft.believesUnseen_iff hprofile, AnyDraft.believesUnseen_iff hother, hquestion, hasked,
    profile.trust.exempts_congr hspelling]

/-- A client registers a level and spares a host; a list with an unfit text is refused. In other spellings
    of all three the same list is refused, for the text as it is spelled there; the client finds the same
    credential and spares the same host. -/
theorem respelled_client_spares_same_host :
    let engine := Catalogue.engine []
    let own : Credential := ⟨none, [⟨[1]⟩], ⟨"key", some .ecdsa⟩⟩
    let first : List ClientCall := [.common (.set "*.A.com" own), .exemption (.exemptHosts ["c.d", "x..y"]),
      .exemption (.exemptHosts ["B.com."])]
    let second : List ClientCall := [.common (.set "*.a.COM." own),
      .exemption (.exemptHosts ["C.d.", "X..y"]), .exemption (.exemptHosts ["b.com"])]
    List.Forall₂ ClientCall.Respelled first second ∧
      (outcomes AnyDraft.call (.empty .client) first).map errorOf? =
        [none, some (.config (.invalidHost "x..y")), none] ∧
      (outcomes AnyDraft.call (.empty .client) second).map errorOf? =
        [none, some (.config (.invalidHost "X..y")), none] ∧
      ∃ profile other, ((AnyDraft.ofRun .client first).build engine).run.value = .ok profile ∧
        ((AnyDraft.ofRun .client second).build engine).run.value = .ok other ∧
        (profile.find "w.a.com").value = some own ∧ (other.find "W.A.com.").value = some own ∧
        (AnyDraft.ofRun .client first).BelievesUnseen engine (.about (.dns "b.com")) ∧
        (AnyDraft.ofRun .client second).BelievesUnseen engine (.about (.dns "B.COM.")) := by
  intro engine own first second
  have hrespelled : List.Forall₂ ClientCall.Respelled first second := by
    refine .cons (.common (.set own ?_)) (.cons (.exemptHosts (.cons ?_ (.cons ?_ .nil)))
      (.cons (.exemptHosts (.cons ?_ .nil)) .nil)) <;>
    · rw [← HostName.canonical_eq_iff]
      decide
  have hprofile := AnyDraft.build_of_trustedBy_eq_nil (show trustedBy first = [] from rfl) .client engine
  have hother := AnyDraft.build_of_trustedBy_eq_nil (show trustedBy second = [] from rfl) .client engine
  have hfound : (((AnyDraft.ofRun .client first).frozen engine).find "w.a.com").value = some own := by
    rw [Profile.value_find, (AnyDraft.builtBy_of_build hprofile).identities_eq]
    decide +kernel
  have hspared : (AnyDraft.ofRun .client first).BelievesUnseen engine (.about (.dns "b.com")) :=
    (AnyDraft.believesUnseen_iff hprofile _).mpr (by decide +kernel)
  obtain ⟨_, _, hsame, _⟩ := spelling_never_matters engine .client hrespelled
  obtain ⟨_, _, _, _, hasked⟩ := hsame _ _ hprofile hother
  have hlevel := hasked "w.a.com" "W.A.com." (HostName.canonical_eq_iff.mp (by decide))
  have hpeer := hasked "b.com" "B.COM." (HostName.canonical_eq_iff.mp (by decide))
  exact ⟨hrespelled, by decide +kernel, by decide +kernel, _, _, hprofile, hother, hfound,
    hlevel.1.symm.trans hfound, hspared, (hpeer.2.2 _ _ rfl rfl).mp hspared⟩

end TlsIdentity
