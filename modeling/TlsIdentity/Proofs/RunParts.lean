import TlsIdentity.Proofs.BuiltProfiles
import TlsIdentity.Proofs.Runs
import TlsIdentity.Proofs.TableHistory
import TlsIdentity.Workbench

/-!
# What a run leaves in a profile

A call says something about some parts of a draft, and `Draft.call_eq` says all that it does: it fails on
a text that stands for no pattern, and else every part has what the call says about it. So a run of calls
on an empty draft, of a server or of a client, leaves in each part what the calls that concern it say: the
identities are the table of the registrations, the backend is the one chosen last, and the anchors are all
certificates that were trusted. `Profile.BuiltBy` carries this over to the profile that is built at the
end, so later modules argue about the list of calls alone.
-/

namespace TlsIdentity

/-! ## Runs without causes -/

section

variable {ε ε' σ κ : Type}

/-- A run does not ask why a call fails. -/
theorem runFrom_mapError (step : σ → κ → Except ε σ) (wrap : ε → ε') (state : σ) (calls : List κ) :
    runFrom (fun state call => (step state call).mapError wrap) state calls = runFrom step state calls := by
  have hkeep : ∀ (state : σ) (outcome : Except ε σ),
      keepOnError state (outcome.mapError wrap) = keepOnError state outcome := by
    rintro state (error | next) <;> rfl
  rw [runFrom, runFrom]
  exact congrArg (fun next => calls.foldl next state) (funext fun state => funext fun call => hkeep state _)

/-- Nor do the calls that succeed. -/
theorem taken_mapError (step : σ → κ → Except ε σ) (wrap : ε → ε') (state : σ) (calls : List κ) :
    taken (fun state call => (step state call).mapError wrap) state calls = taken step state calls := by
  induction calls generalizing state with
  | nil => rfl
  | cons call rest ih =>
    rw [taken, taken]
    cases step state call with
    | ok next => exact congrArg (call :: ·) (ih next)
    | error error => exact ih state

/-- What is set again and again is in the end what it was set to last. -/
theorem foldl_some_eq_getLast? (values : List σ) :
    values.foldl (fun _ value => some value) none = values.getLast? := by
  induction values using List.reverseRecOn with
  | nil => rfl
  | append_singleton earlier value _ =>
    rw [List.foldl_append, List.getLast?_concat]
    rfl

end

/-! ## The parts of a draft -/

namespace DraftCall

/-- The pattern that a call registers, and the credential for it; a text that stands for no pattern
    registers nothing. -/
def registration? : DraftCall → Option (HostPattern × Credential)
  | .set host credential => (HostPattern.ofText? host).map fun pattern => (pattern, credential)
  | .setFallback credential => some (.any, credential)
  | _ => none

/-- The backend that a call chooses. -/
def backend? : DraftCall → Option Backend
  | .useBackend backend => some backend
  | _ => none

/-- The certificates that a call makes trust anchors. -/
def trusts : DraftCall → List Certificate
  | .trust certificates => certificates
  | _ => []

/-- The customizer that a call adds. -/
def customizer? : DraftCall → Option Customizer
  | .customize customizer => some customizer
  | _ => none

/-- The label that a call sets. -/
def label? : DraftCall → Option String
  | .setMeterLabel label => some label
  | _ => none

/-- What a call says about unsafe cipher suites. -/
def allowance? : DraftCall → Option Bool
  | .allowUnsafeSuites allowed => some allowed
  | _ => none

/-- The text that makes a call fail: it is to be registered and stands for no pattern. -/
def unfit? : DraftCall → Option String
  | .set host _ => if (HostPattern.ofText? host).isSome then none else some host
  | _ => none

end DraftCall

namespace Draft

variable {draft next : Draft} {call : DraftCall}

/-- The draft with what a call says about each of its parts. -/
def after (draft : Draft) (call : DraftCall) : Draft where
  identities := call.registration?.elim draft.identities fun entry =>
    draft.identities.insert entry.1 entry.2
  customizers := draft.customizers ++ call.customizer?.toList
  trusted := draft.trusted ++ call.trusts
  chosenBackend := call.backend? <|> draft.chosenBackend
  allowsUnsafeSuites := call.allowance?.getD draft.allowsUnsafeSuites
  meterLabel := call.label? <|> draft.meterLabel

/-- **All that a call does.** It fails on a text that stands for no pattern; else each part of the draft has
    what the call says about it. -/
theorem call_eq (draft : Draft) (call : DraftCall) :
    draft.call call =
      match call.unfit? with
      | some host => .error (.invalidHost host)
      | none => .ok (draft.after call) := by
  cases call with
  | set host credential =>
    rw [Draft.call, set, HostPattern.ofText]
    cases hpattern : HostPattern.ofText? host with
    | none =>
      simp only [DraftCall.unfit?, hpattern]
      rfl
    | some pattern =>
      simp only [DraftCall.unfit?, hpattern]
      show Except.ok { draft with identities := draft.identities.insert pattern credential } = _
      simp [after, DraftCall.registration?, hpattern, DraftCall.customizer?, DraftCall.trusts,
        DraftCall.backend?, DraftCall.allowance?, DraftCall.label?]
  | _ =>
    simp [Draft.call, DraftCall.unfit?, setFallback, Draft.trust, CustomizerChain.push, after,
      DraftCall.registration?, DraftCall.customizer?, DraftCall.trusts, DraftCall.backend?,
      DraftCall.allowance?, DraftCall.label?]

theorem call_eq_ok_iff : draft.call call = .ok next ↔ call.unfit? = none ∧ next = draft.after call := by
  rw [call_eq]
  cases call.unfit? <;> simp [eq_comm]

/-- A call that says something about identities does not fail. -/
theorem unfit?_of_registration? {entry : HostPattern × Credential} (h : call.registration? = some entry) :
    call.unfit? = none := by
  cases call with
  | set host credential =>
    obtain ⟨pattern, hpattern, _⟩ := Option.map_eq_some_iff.mp h
    simp [DraftCall.unfit?, hpattern]
  | _ => rfl

/-- Only a call that is to register something can fail, so one that does says nothing about anchors. -/
theorem trusts_of_unfit? {host : String} (h : call.unfit? = some host) : call.trusts = [] := by
  cases call with
  | set host credential => rfl
  | _ => cases h

/-- Whether a call succeeds does not depend on the calls before it. -/
theorem taken_call (draft : Draft) (calls : List DraftCall) :
    taken Draft.call draft calls = calls.filter (·.unfit?.isNone) := by
  induction calls generalizing draft with
  | nil => rfl
  | cons call rest ih =>
    cases hfit : call.unfit? with
    | none =>
      have hcall : draft.call call = .ok (draft.after call) := call_eq_ok_iff.mpr ⟨hfit, rfl⟩
      rw [taken_cons_ok hcall, ih, List.filter_cons_of_pos (by rw [hfit]; rfl)]
    | some host =>
      have hcall : draft.call call = .error (.invalidHost host) := by rw [call_eq, hfit]
      rw [taken_cons_error hcall, ih, List.filter_cons_of_neg (by rw [hfit]; nofun)]

/-! ### Identities -/

theorem isPart_identities :
    IsPart Draft.call (fun table entry => .ok (table.insert entry.1 entry.2)) identities
      DraftCall.registration? where
  picked {draft call entry} hpick := by
    rw [call_eq, unfit?_of_registration? hpick]
    show Except.ok (draft.after call).identities = _
    rw [after, hpick]
    rfl
  passed {draft call next} hpick hcall := by
    obtain ⟨_, rfl⟩ := call_eq_ok_iff.mp hcall
    rw [after, hpick]
    rfl

/-- **The identities of a run are the table of its registrations.** -/
theorem identities_run (calls : List DraftCall) :
    (empty.run calls).identities = .ofHistory (calls.filterMap DraftCall.registration?) :=
  isPart_identities.view_runFrom empty calls

/-! ### The backend -/

theorem isPart_chosenBackend :
    IsPart Draft.call (fun _ backend => .ok (some backend)) chosenBackend DraftCall.backend? where
  picked {draft call backend} hpick := by
    cases call with
    | useBackend own =>
      cases hpick
      rfl
    | _ => cases hpick
  passed {draft call next} hpick hcall := by
    obtain ⟨_, rfl⟩ := call_eq_ok_iff.mp hcall
    rw [after, hpick]
    rfl

/-- **The backend of a run is the one chosen last.** -/
theorem backend_run (engine : Engine) (calls : List DraftCall) :
    (empty.run calls).backend engine =
      (calls.filterMap DraftCall.backend?).getLast?.getD engine.defaultBackend := by
  have hchosen : (empty.run calls).chosenBackend = (calls.filterMap DraftCall.backend?).getLast? :=
    (isPart_chosenBackend.view_runFrom empty calls).trans (foldl_some_eq_getLast? _)
  rw [backend, hchosen]

/-! ### Anchors -/

/-- **A run chooses the anchors of all its calls, in their order.** -/
theorem trusted_runFrom (draft : Draft) (calls : List DraftCall) :
    (runFrom Draft.call draft calls).trusted = draft.trusted ++ calls.flatMap DraftCall.trusts := by
  induction calls generalizing draft with
  | nil => exact (List.append_nil _).symm
  | cons call rest ih =>
    -- a call that fails adds nothing to either side
    rw [List.flatMap_cons]
    cases hfit : call.unfit? with
    | none =>
      have hcall : draft.call call = .ok (draft.after call) := call_eq_ok_iff.mpr ⟨hfit, rfl⟩
      rw [runFrom_cons_ok hcall, ih, after, List.append_assoc]
    | some host =>
      have hcall : draft.call call = .error (.invalidHost host) := by rw [call_eq, hfit]
      rw [runFrom_cons_error hcall, ih, trusts_of_unfit? hfit, List.nil_append]

end Draft

/-! ## Drafts of either kind -/

namespace AnyDraft

/-- What a draft of either kind has. -/
def common : AnyDraft → Draft
  | .server draft => draft
  | .client draft => draft.common

/-- Which servers the profile will verify: a server's draft has no say in it. -/
def policy : AnyDraft → TrustPolicy
  | .server _ => .verifyAll
  | .client draft => draft.exemption.policy

/-- The profile that the draft describes when the engine accepts its certificates. -/
def frozen (any : AnyDraft) (engine : Engine) : Profile :=
  any.common.frozen engine any.policy

theorem build_eq_freeze (any : AnyDraft) (engine : Engine) :
    any.build engine = any.common.freeze engine any.policy := by
  cases any <;> rfl

/-- The draft after a run of calls on an empty one. On a server's draft calls about verification fail, and
    so change nothing. -/
def ofRun (role : Role) (calls : List ClientCall) : AnyDraft :=
  runFrom AnyDraft.call (.empty role) calls

theorem call_server_common (draft : Draft) (call : DraftCall) :
    (AnyDraft.server draft).call (.common call) =
      ((draft.call call).mapError StepError.config).map .server := by
  show ((draft.call call).mapError StepError.config >>= fun next => pure (AnyDraft.server next)) = _
  cases draft.call call <;> rfl

theorem call_client (draft : ClientDraft) (call : ClientCall) :
    (AnyDraft.client draft).call call = ((draft.call call).mapError StepError.config).map .client := by
  show ((draft.call call).mapError StepError.config >>= fun next => pure (AnyDraft.client next)) = _
  cases draft.call call <;> rfl

theorem isPart_common :
    IsPart AnyDraft.call (fun draft call => (draft.call call).mapError .config) common
      ClientCall.common? where
  picked {any call own} hpick := by
    cases call with
    | exemption call => cases hpick
    | common call =>
      cases hpick
      cases any with
      | server draft =>
        rw [call_server_common]
        show _ = (draft.call own).mapError StepError.config
        cases draft.call own <;> rfl
      | client draft =>
        rw [call_client, ClientDraft.call_common]
        show _ = (draft.common.call own).mapError StepError.config
        cases draft.common.call own <;> rfl
  passed {any call next} hpick hcall := by
    cases call with
    | common call => cases hpick
    | exemption call =>
      cases any with
      | server draft => cases hcall
      | client draft =>
        rw [call_client, ClientDraft.call_exemption] at hcall
        cases hexemption : draft.exemption.call call with
        | error error =>
          rw [hexemption] at hcall
          cases hcall
        | ok exemption =>
          rw [hexemption] at hcall
          cases hcall
          rfl

/-- What a run does to the common half is the run of the calls that every draft takes. -/
theorem common_ofRun (role : Role) (calls : List ClientCall) :
    (ofRun role calls).common = Draft.empty.run (calls.filterMap ClientCall.common?) := by
  have hempty : (AnyDraft.empty role).common = .empty := by
    cases role <;> rfl
  rw [ofRun, isPart_common.view_runFrom, runFrom_mapError, hempty]
  rfl

end AnyDraft

/-! ## Built profiles -/

/-- The registrations of a run, the earliest first. -/
def registeredBy (calls : List ClientCall) : History Credential :=
  (calls.filterMap ClientCall.common?).filterMap DraftCall.registration?

/-- Every registered pattern is what some text stands for. -/
theorem exists_text_of_mem_registeredBy {calls : List ClientCall} {pattern : HostPattern}
    (h : pattern ∈ (registeredBy calls).map (·.1)) : ∃ text, HostPattern.ofText? text = some pattern := by
  obtain ⟨entry, hentry, rfl⟩ := List.mem_map.mp h
  obtain ⟨call, _, hcall⟩ := List.mem_filterMap.mp hentry
  cases call with
  | set host credential =>
    obtain ⟨pattern, hpattern, rfl⟩ := Option.map_eq_some_iff.mp hcall
    exact ⟨host, hpattern⟩
  | setFallback credential =>
    cases hcall
    have hany : HostPattern.ofText? HostPattern.anyText = some .any := by decide
    exact ⟨_, hany⟩
  | _ => cases hcall

/-- The calls that succeed register all that the run registers. -/
theorem registeredBy_taken (role : Role) (calls : List ClientCall) :
    registeredBy (taken AnyDraft.call (.empty role) calls) = registeredBy calls := by
  rw [registeredBy, AnyDraft.isPart_common.filterMap_taken, taken_mapError, Draft.taken_call,
    List.filterMap_filter, registeredBy]
  refine congrArg (List.filterMap · _) (funext fun call => ?_)
  cases hregistration : call.registration? with
  | none => rw [ite_self]
  | some entry =>
    rw [Draft.unfit?_of_registration? hregistration]
    rfl

/-- The backend that a run chooses last, or the engine's default. -/
def backendOf (engine : Engine) (calls : List ClientCall) : Backend :=
  ((calls.filterMap ClientCall.common?).filterMap DraftCall.backend?).getLast?.getD engine.defaultBackend

/-- The certificates that a run makes trust anchors. -/
def trustedBy (calls : List ClientCall) : List Certificate :=
  (calls.filterMap ClientCall.common?).flatMap DraftCall.trusts

/-- What a profile has of the calls that made it. -/
structure Profile.BuiltBy (profile : Profile) (engine : Engine) (calls : List ClientCall) : Prop where
  identities_eq : profile.identities = .ofHistory (registeredBy calls)
  backend_eq : profile.backend = backendOf engine calls
  anchors_eq : profile.anchors = anchorsOf (trustedBy calls)
  verifier_eq : profile.verifier =
    profile.trust.verifierOver engine (backendOf engine calls) (anchorsOf (trustedBy calls))

theorem Profile.BuiltBy.anchors_ne_nil {profile : Profile} {engine : Engine} {calls : List ClientCall}
    (h : profile.BuiltBy engine calls) : profile.anchors ≠ [] := by
  rw [h.anchors_eq]
  exact anchorsOf_ne_nil _

namespace AnyDraft

variable {role : Role} {calls : List ClientCall} {engine : Engine} {profile : Profile}

theorem trusted_ofRun (role : Role) (calls : List ClientCall) :
    (ofRun role calls).common.trusted = trustedBy calls := by
  rw [common_ofRun]
  exact Draft.trusted_runFrom .empty _

/-- A run ends in a profile exactly if the engine accepts every certificate that it trusts, and then in
    the frozen draft. -/
theorem build_eq_ok_iff (role : Role) (calls : List ClientCall) (engine : Engine) :
    ((ofRun role calls).build engine).run.value = .ok profile ↔
      (∀ certificate ∈ trustedBy calls, engine.checkAnchor certificate = .ok ()) ∧
        profile = (ofRun role calls).frozen engine := by
  rw [build_eq_freeze, Draft.freeze_eq_ok_iff, trusted_ofRun, frozen]

/-- A draft that trusts no certificate of its own is always made a profile. -/
theorem build_of_trusted_eq_nil {any : AnyDraft} (h : any.common.trusted = []) (engine : Engine) :
    (any.build engine).run.value = .ok (any.frozen engine) := by
  rw [build_eq_freeze]
  exact Draft.freeze_of_trusted_eq_nil h engine _

/-- So a run that trusts no certificate of its own always ends in a profile. -/
theorem build_of_trustedBy_eq_nil (h : trustedBy calls = []) (role : Role) (engine : Engine) :
    ((ofRun role calls).build engine).run.value = .ok ((ofRun role calls).frozen engine) :=
  build_of_trusted_eq_nil ((trusted_ofRun role calls).trans h) engine

/-- **A profile is what the calls of its run say**, of whichever kind the draft was. -/
theorem builtBy_of_build (h : ((ofRun role calls).build engine).run.value = .ok profile) :
    profile.BuiltBy engine calls := by
  obtain ⟨_, rfl⟩ := (build_eq_ok_iff role calls engine).mp h
  have hbackend : (ofRun role calls).common.backend engine = backendOf engine calls := by
    rw [common_ofRun, Draft.backend_run, backendOf]
  constructor
  · show (ofRun role calls).common.identities = _
    rw [common_ofRun, Draft.identities_run, registeredBy]
  · exact hbackend
  · rw [← trusted_ofRun role calls]
    rfl
  · rw [← trusted_ofRun role calls, ← hbackend]
    rfl

end AnyDraft

/-- The profile that presents one credential to every peer is what a run of one call makes. -/
theorem Profile.presenting_eq_build (engine : Engine) (credential : Credential) :
    Profile.presenting engine credential =
      (AnyDraft.ofRun .server [.common (.setFallback credential)]).build engine :=
  rfl

end TlsIdentity
