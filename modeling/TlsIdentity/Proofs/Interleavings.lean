import TlsIdentity.Catalogue
import TlsIdentity.Proofs.RunParts

/-!
# Calls of different kinds

Every call on a draft is of one kind, and every kind has a part of the draft to itself. `only` cuts a draft
down to such a part. A call does to its own part of a draft what it does to that part alone, and fails
where it fails there, and it leaves the other parts as they are (`isPart_only`). So the part that a run
leaves, and how the calls of its kind end, is settled by these calls, however the others stand between
them. A draft is made of its parts (`eq_of_only`), and so two runs that agree kind by kind end in one draft.
-/

namespace TlsIdentity

/-! ## How calls end -/

section

variable {ε σ κ τ ι : Type} {step : σ → κ → Except ε σ} {part : τ → ι → Except ε τ} {view : σ → τ}
  {pick : κ → Option ι}

/-- The calls of a run, each with how it ends: with success or with an error. -/
def endings (step : σ → κ → Except ε σ) (state : σ) : List κ → List (κ × Except ε Unit)
  | [] => []
  | call :: rest =>
    (call, (step state call).map fun _ => ()) ::
      endings step (keepOnError state (step state call)) rest

theorem keepOnError_map {view : σ → τ} (state : σ) (outcome : Except ε σ) :
    keepOnError (view state) (outcome.map view) = view (keepOnError state outcome) := by
  cases outcome <;> rfl

/-- **The calls of a part end as they do in the run of them alone.** -/
theorem IsPart.endings_eq (h : IsPart step part view pick) (state : σ) (calls : List κ) :
    (endings step state calls).filterMap (fun entry => (pick entry.1).map fun own => (own, entry.2)) =
      endings part (view state) (calls.filterMap pick) := by
  induction calls generalizing state with
  | nil => rfl
  | cons call rest ih =>
    rw [endings]
    cases hpick : pick call with
    | none =>
      -- a call of another part leaves this one as it is, also where it fails
      have hkeep : view (keepOnError state (step state call)) = view state := by
        cases hstep : step state call with
        | ok next => exact h.passed hpick hstep
        | error error => rfl
      rw [List.filterMap_cons_none (by simp only [hpick, Option.map_none]),
        List.filterMap_cons_none hpick, ih, hkeep]
    | some own =>
      have hown : (step state call).map view = part (view state) own := h.picked hpick
      have hending : (step state call).map (fun _ => ()) = (part (view state) own).map fun _ => () := by
        rw [← hown]
        cases step state call <;> rfl
      have hkeep : keepOnError (view state) (part (view state) own) =
          view (keepOnError state (step state call)) := by
        rw [← hown, keepOnError_map]
      rw [List.filterMap_cons_some (b := (own, (step state call).map fun _ => ()))
        (by simp only [hpick, Option.map_some]), List.filterMap_cons_some hpick, endings, ih, hending,
        hkeep]

end

/-! ## Kinds of calls -/

/-- The kinds of calls. -/
inductive CallKind where
  /-- Calls that register identities, the fallback among them. -/
  | identities
  /-- Calls that add trust anchors. -/
  | anchors
  /-- Calls that choose the backend. -/
  | backend
  /-- Calls that add a customizer. -/
  | customizers
  /-- Calls that set the label for measurements. -/
  | label
  /-- Calls about unsafe cipher suites. -/
  | suites
  /-- Calls about verification. -/
  | verification
  deriving DecidableEq, Repr

/-- The kind of a call that every draft takes. -/
def DraftCall.kind : DraftCall → CallKind
  | .set .. => .identities
  | .setFallback _ => .identities
  | .trust _ => .anchors
  | .useBackend _ => .backend
  | .customize _ => .customizers
  | .setMeterLabel _ => .label
  | .allowUnsafeSuites _ => .suites

/-- The kind of a call. -/
def ClientCall.kind : ClientCall → CallKind
  | .common call => call.kind
  | .exemption _ => .verification

/-- The calls of one kind, in their order. -/
def ofKind (kind : CallKind) (calls : List ClientCall) : List ClientCall :=
  calls.filter (·.kind = kind)

/-! ## Parts of a draft -/

namespace Draft

/-- The draft with one part kept and all others empty. -/
def only (draft : Draft) : CallKind → Draft
  | .identities => { identities := draft.identities }
  | .anchors => { trusted := draft.trusted }
  | .backend => { chosenBackend := draft.chosenBackend }
  | .customizers => { customizers := draft.customizers }
  | .label => { meterLabel := draft.meterLabel }
  | .suites => { allowsUnsafeSuites := draft.allowsUnsafeSuites }
  | .verification => {}

variable {draft next other : Draft} {call : DraftCall} {kind : CallKind}

/-- What a call makes of its own part does not depend on the others. -/
theorem only_after_kind (draft : Draft) (call : DraftCall) :
    (draft.after call).only call.kind = (draft.only call.kind).after call := by
  cases call <;>
    simp [DraftCall.kind, only, after, DraftCall.registration?, DraftCall.customizer?, DraftCall.trusts,
      DraftCall.backend?, DraftCall.allowance?, DraftCall.label?]

/-- A call leaves the parts of other kinds as they are. -/
theorem only_after_of_ne (h : call.kind ≠ kind) (draft : Draft) :
    (draft.after call).only kind = draft.only kind := by
  cases call <;> cases kind <;>
    first
    | exact absurd rfl h
    | simp [only, after, DraftCall.registration?, DraftCall.customizer?, DraftCall.trusts,
        DraftCall.backend?, DraftCall.allowance?, DraftCall.label?]

/-- **A call does to its own part what it does to that part alone**, and fails where it fails there. -/
theorem call_only (draft : Draft) (call : DraftCall) :
    (draft.call call).map (·.only call.kind) = (draft.only call.kind).call call := by
  rw [call_eq, call_eq]
  cases call.unfit? with
  | some host => rfl
  | none => exact congrArg Except.ok (only_after_kind draft call)

theorem only_of_call (h : call.kind ≠ kind) (hcall : draft.call call = .ok next) :
    next.only kind = draft.only kind := by
  obtain ⟨_, rfl⟩ := call_eq_ok_iff.mp hcall
  exact only_after_of_ne h draft

/-- A draft is made of its parts. -/
theorem eq_of_only (h : ∀ kind, draft.only kind = other.only kind) : draft = other := by
  have hidentities := congrArg Draft.identities (h .identities)
  have hanchors := congrArg Draft.trusted (h .anchors)
  have hbackend := congrArg Draft.chosenBackend (h .backend)
  have hcustomizers := congrArg Draft.customizers (h .customizers)
  have hlabel := congrArg Draft.meterLabel (h .label)
  have hsuites := congrArg Draft.allowsUnsafeSuites (h .suites)
  cases draft
  cases other
  simp only [only] at hidentities hanchors hbackend hcustomizers hlabel hsuites
  simp only [hidentities, hanchors, hbackend, hcustomizers, hlabel, hsuites]

end Draft

/-- The exemption, if it is the part that is wanted. -/
def Exemption.only (exemption : Exemption) : CallKind → Exemption
  | .verification => exemption
  | _ => .nobody

namespace AnyDraft

/-- The draft with one part kept and all others empty. -/
def only (any : AnyDraft) (kind : CallKind) : AnyDraft :=
  match any with
  | .server draft => .server (draft.only kind)
  | .client draft =>
    .client { common := draft.common.only kind, exemption := draft.exemption.only kind }

variable {any next other : AnyDraft} {call : ClientCall} {kind : CallKind}

theorem call_only (any : AnyDraft) (call : ClientCall) :
    (any.call call).map (·.only call.kind) = (any.only call.kind).call call := by
  cases any with
  | server draft =>
    cases call with
    | exemption call => rfl
    | common call =>
      have hown := draft.call_only call
      simp only [only, ClientCall.kind, call_server_common, ← hown]
      cases draft.call call <;> rfl
  | client draft =>
    cases call with
    | exemption call =>
      simp only [only, ClientCall.kind, call_client, ClientDraft.call_exemption, Exemption.only]
      cases draft.exemption.call call <;> rfl
    | common call =>
      have hown := draft.common.call_only call
      simp only [only, ClientCall.kind, call_client, ClientDraft.call_common, ← hown]
      cases draft.common.call call <;> rfl

theorem only_of_call (h : call.kind ≠ kind) (hcall : any.call call = .ok next) :
    next.only kind = any.only kind := by
  cases any with
  | server draft =>
    cases call with
    | exemption call => cases hcall
    | common call =>
      rw [call_server_common, map_eq_ok_iff] at hcall
      obtain ⟨own, hown, rfl⟩ := hcall
      exact congrArg AnyDraft.server (Draft.only_of_call h (mapError_eq_ok_iff.mp hown))
  | client draft =>
    rw [call_client, map_eq_ok_iff] at hcall
    obtain ⟨own, hown, rfl⟩ := hcall
    have hdraft := mapError_eq_ok_iff.mp hown
    cases call with
    | common call =>
      rw [ClientDraft.call_common, map_eq_ok_iff] at hdraft
      obtain ⟨common, hcommon, rfl⟩ := hdraft
      simp only [only, Draft.only_of_call h hcommon]
    | exemption call =>
      rw [ClientDraft.call_exemption, map_eq_ok_iff] at hdraft
      obtain ⟨exemption, _, rfl⟩ := hdraft
      cases kind <;> first | exact absurd rfl h | rfl

/-- **The calls of a kind concern the part of that kind**, and what they do to it is what they do to a draft
    that has nothing else. -/
theorem isPart_only (kind : CallKind) :
    IsPart AnyDraft.call AnyDraft.call (·.only kind) (Option.guard (·.kind = kind)) where
  picked {any call own} hpick := by
    obtain ⟨rfl, hkind⟩ := Option.guard_eq_some_iff.mp hpick
    obtain rfl := of_decide_eq_true hkind
    exact any.call_only call
  passed {any call next} hpick hcall := by
    have hkind : call.kind ≠ kind := by
      simpa using Option.guard_eq_none_iff.mp hpick
    exact only_of_call hkind hcall

/-- The part that a run leaves is what the calls of its kind alone make of it. -/
theorem only_runFrom (kind : CallKind) (any : AnyDraft) (calls : List ClientCall) :
    (runFrom AnyDraft.call any calls).only kind =
      runFrom AnyDraft.call (any.only kind) (ofKind kind calls) := by
  rw [(isPart_only kind).view_runFrom, List.filterMap_eq_filter]
  rfl

/-- The calls of a kind end in a run as they end in the run of them alone on the part of their kind. -/
theorem endings_ofKind (kind : CallKind) (any : AnyDraft) (calls : List ClientCall) :
    (endings AnyDraft.call any calls).filter (·.1.kind = kind) =
      endings AnyDraft.call (any.only kind) (ofKind kind calls) := by
  have hcalls := (isPart_only kind).endings_eq any calls
  have hpick : (fun entry : ClientCall × Except StepError Unit =>
      (Option.guard (·.kind = kind) entry.1).map fun own => (own, entry.2)) =
        Option.guard (·.1.kind = kind) := by
    funext entry
    by_cases h : entry.1.kind = kind <;> simp [Option.guard, h]
  rw [hpick, List.filterMap_eq_filter, List.filterMap_eq_filter] at hcalls
  exact hcalls

/-- A draft is made of its parts. -/
theorem eq_of_only (h : ∀ kind, any.only kind = other.only kind) : any = other := by
  cases any with
  | server draft =>
    cases other with
    | client other => cases h .verification
    | server other =>
      have hdraft : draft = other := Draft.eq_of_only fun kind => AnyDraft.server.inj (h kind)
      rw [hdraft]
  | client draft =>
    cases other with
    | server other => cases h .verification
    | client other =>
      have hpart : ∀ kind, draft.common.only kind = other.common.only kind ∧
          draft.exemption.only kind = other.exemption.only kind := fun kind =>
        ClientDraft.mk.inj (AnyDraft.client.inj (h kind))
      have hcommon : draft.common = other.common := Draft.eq_of_only fun kind => (hpart kind).1
      have hexemption : draft.exemption = other.exemption := (hpart .verification).2
      cases draft
      cases other
      cases hcommon
      cases hexemption
      rfl

end AnyDraft

/-! ## Interleavings -/

/-- **Calls of different kinds commute.** Let two sequences of calls on a draft, of a server or of a client
    and in whatever state, have the same calls of each kind in the same order, however the kinds are
    interleaved.

    * Call for call, those of one kind end alike in both: all succeed or fail, and these with the same
      error.
    * Both lead to the same draft. Each part of it is what the calls of its kind alone make of that part.
    * So both builds report the same and end alike, in the same error or in the same profile. -/
theorem kinds_commute (engine : Engine) (any : AnyDraft) {first second : List ClientCall}
    (h : ∀ kind, ofKind kind first = ofKind kind second) :
    (∀ kind, (endings AnyDraft.call any first).filter (·.1.kind = kind) =
      (endings AnyDraft.call any second).filter (·.1.kind = kind)) ∧
    (∀ kind, (runFrom AnyDraft.call any first).only kind =
      runFrom AnyDraft.call (any.only kind) (ofKind kind first)) ∧
    runFrom AnyDraft.call any first = runFrom AnyDraft.call any second ∧
    ((runFrom AnyDraft.call any first).build engine).run =
      ((runFrom AnyDraft.call any second).build engine).run := by
  have hdraft : runFrom AnyDraft.call any first = runFrom AnyDraft.call any second := by
    refine AnyDraft.eq_of_only fun kind => ?_
    rw [AnyDraft.only_runFrom, AnyDraft.only_runFrom, h kind]
  refine ⟨?_, ?_, hdraft, by rw [hdraft]⟩
  · intro kind
    rw [AnyDraft.endings_ofKind, AnyDraft.endings_ofKind, h kind]
  · intro kind
    exact AnyDraft.only_runFrom kind any first

/-- A client's calls and a shuffle of them. In both, one registration and the call for everybody are
    refused, and the profile is the same. -/
theorem shuffled_calls_make_same_profile :
    let engine := Catalogue.engine []
    let own : Credential := ⟨none, [⟨[1]⟩], ⟨"key", some .ecdsa⟩⟩
    let silent : Customizer := ⟨fun settings => { settings with indicatesName := false }, id⟩
    let first : List ClientCall := [.common (.set "*.B.com" own), .exemption (.exemptHosts ["A.com"]),
      .common (.set "x..y" own), .common (.customize silent), .exemption .exemptAll,
      .common (.useBackend .only12)]
    let second : List ClientCall := [.exemption (.exemptHosts ["A.com"]), .common (.useBackend .only12),
      .exemption .exemptAll, .common (.set "*.B.com" own), .common (.customize silent),
      .common (.set "x..y" own)]
    (∀ kind, ofKind kind first = ofKind kind second) ∧
      (endings AnyDraft.call (.empty .client) second).filter (·.1.kind = .verification) =
        [(.exemption (.exemptHosts ["A.com"]), .ok ()),
          (.exemption .exemptAll, .error (.config .verificationConflict))] ∧
      ∃ profile, ((AnyDraft.ofRun .client first).build engine).run.value = .ok profile ∧
        ((AnyDraft.ofRun .client second).build engine).run.value = .ok profile ∧
        profile.trust = .skipHosts (HostSet.ofList ["a.com"]) := by
  intro engine own silent first second
  have hkinds : ∀ kind, ofKind kind first = ofKind kind second := by
    intro kind
    cases kind <;> rfl
  obtain ⟨hendings, _, _, hbuild⟩ := kinds_commute engine (.empty .client) hkinds
  have hfirst := AnyDraft.build_of_trustedBy_eq_nil (show trustedBy first = [] from rfl) .client engine
  have hverification : (endings AnyDraft.call (.empty .client) first).filter (·.1.kind = .verification) =
      [(.exemption (.exemptHosts ["A.com"]), .ok ()),
        (.exemption .exemptAll, .error (.config .verificationConflict))] := by
    rfl
  refine ⟨hkinds, (hendings .verification).symm.trans hverification, _, hfirst, ?_, by rfl⟩
  exact (congrArg Reported.value hbuild).symm.trans hfirst

end TlsIdentity
