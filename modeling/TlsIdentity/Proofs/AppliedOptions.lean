import TlsIdentity.Proofs.RunParts

/-!
# Drafts to which options were applied

Applying options loads files and makes calls on the draft with what was loaded. So a draft never comes,
by options, to where it would not come by some run of plain calls, and what holds of every run of calls
holds also where options were applied in between, with whatever files and as often as one likes.
-/

namespace TlsIdentity

/-! ## Being reached by calls -/

/-- Some run of calls leads from one state to the other. -/
def Reaches {ε σ κ : Type} (step : σ → κ → Except ε σ) (state next : σ) : Prop :=
  ∃ calls, runFrom step state calls = next

namespace Reaches

variable {ε σ κ : Type} {step : σ → κ → Except ε σ} {state next last : σ} {call : κ}

theorem refl (state : σ) : Reaches step state state :=
  ⟨[], rfl⟩

theorem of_call (h : step state call = .ok next) : Reaches step state next := by
  refine ⟨[call], ?_⟩
  rw [runFrom_cons_ok h]
  rfl

theorem trans (h : Reaches step state next) (h' : Reaches step next last) : Reaches step state last := by
  obtain ⟨calls, rfl⟩ := h
  obtain ⟨later, rfl⟩ := h'
  exact ⟨calls ++ later, runFrom_append⟩

/-- What one state machine reaches, another reaches that makes the same steps on a part of its state. -/
theorem lift {ε' σ' κ' : Type} (h : Reaches step state next) {step' : σ' → κ' → Except ε' σ'}
    (embed : σ → σ') (wrap : κ → κ')
    (hstep : ∀ state call, keepOnError (embed state) (step' (embed state) (wrap call)) =
      embed (keepOnError state (step state call))) :
    Reaches step' (embed state) (embed next) := by
  obtain ⟨calls, rfl⟩ := h
  refine ⟨calls.map wrap, ?_⟩
  induction calls generalizing state with
  | nil => rfl
  | cons call rest ih =>
    show runFrom step' (keepOnError (embed state) (step' (embed state) (wrap call))) (rest.map wrap) = _
    rw [hstep]
    exact ih

end Reaches

/-! ## Options -/

namespace Options

variable {options : Options} {engine : Engine} {files : FileSource} {draft next : Draft}

theorem reaches_of_applyFallback (h : (options.applyFallback engine files draft).run.value = .ok next) :
    Reaches Draft.call draft next := by
  unfold applyFallback at h
  split at h
  · obtain ⟨credential, _, hnext⟩ := Attempt.value_bind_eq_ok_iff.mp h
    have hcall : draft.call (.setFallback credential) = .ok next :=
      congrArg Except.ok (Attempt.value_pure_eq_ok_iff.mp hnext)
    exact .of_call hcall
  · cases Attempt.value_pure_eq_ok_iff.mp h
    exact .refl _
  · cases h

theorem reaches_of_applyIdentity {argument : IdentityArgument}
    (h : (applyIdentity engine files draft argument).run.value = .ok next) :
    Reaches Draft.call draft next := by
  obtain ⟨credential, _, hset⟩ := Attempt.value_bind_eq_ok_iff.mp h
  have hcall : draft.call (.set argument.host credential) = .ok next :=
    mapError_eq_ok_iff.mp (Attempt.value_ofExcept_eq_ok_iff.mp hset)
  exact .of_call hcall

theorem reaches_of_foldlM_applyIdentity {arguments : List IdentityArgument}
    (h : (arguments.foldlM (applyIdentity engine files) draft).run.value = .ok next) :
    Reaches Draft.call draft next := by
  induction arguments generalizing draft with
  | nil =>
    cases Attempt.value_pure_eq_ok_iff.mp h
    exact .refl _
  | cons argument rest ih =>
    rw [List.foldlM_cons] at h
    obtain ⟨mid, hfirst, hrest⟩ := Attempt.value_bind_eq_ok_iff.mp h
    exact (reaches_of_applyIdentity hfirst).trans (ih hrest)

theorem reaches_of_applyAnchors (h : (options.applyAnchors files draft).run.value = .ok next) :
    Reaches Draft.call draft next := by
  unfold applyAnchors at h
  split at h
  · obtain ⟨certificates, _, hnext⟩ := Attempt.value_bind_eq_ok_iff.mp h
    have hcall : draft.call (.trust certificates) = .ok next :=
      congrArg Except.ok (Attempt.value_pure_eq_ok_iff.mp hnext)
    exact .of_call hcall
  · cases Attempt.value_pure_eq_ok_iff.mp h
    exact .refl _

/-- **Options that can be applied come to a run of calls.** -/
theorem reaches_of_apply (h : (options.apply engine files draft).run.value = .ok next) :
    Reaches Draft.call draft next := by
  unfold apply at h
  obtain ⟨first, hfallback, h⟩ := Attempt.value_bind_eq_ok_iff.mp h
  obtain ⟨second, hidentities, hanchors⟩ := Attempt.value_bind_eq_ok_iff.mp h
  exact (reaches_of_applyFallback hfallback).trans
    ((reaches_of_foldlM_applyIdentity hidentities).trans (reaches_of_applyAnchors hanchors))

end Options

/-! ## Drafts of either kind -/

/-- What is done to a draft: it is called, or options are applied to it with the files that are there at
    the time. -/
inductive DraftAction where
  | call (call : ClientCall)
  | apply (files : FileSource) (options : Options)

namespace AnyDraft

variable {engine : Engine} {any next : AnyDraft}

/-- What an action does to a draft. -/
def act (engine : Engine) (any : AnyDraft) : DraftAction → Except StepError AnyDraft
  | .call call => any.call call
  | .apply files options => (any.applyOptions engine files options).run.value.mapError .load

/-- The draft after actions on an empty one; an action that fails changes nothing. -/
def ofActions (engine : Engine) (role : Role) (actions : List DraftAction) : AnyDraft :=
  runFrom (act engine) (.empty role) actions

theorem reaches_server {draft next : Draft} (h : Reaches Draft.call draft next) :
    Reaches AnyDraft.call (.server draft) (.server next) := by
  refine h.lift AnyDraft.server ClientCall.common fun draft call => ?_
  rw [call_server_common]
  cases draft.call call <;> rfl

theorem reaches_client {client : ClientDraft} {next : Draft}
    (h : Reaches Draft.call client.common next) :
    Reaches AnyDraft.call (.client client) (.client { client with common := next }) := by
  refine h.lift (fun common => AnyDraft.client { client with common := common }) ClientCall.common
    fun draft call => ?_
  rw [call_client, ClientDraft.call_common]
  cases draft.call call <;> rfl

theorem reaches_of_act {action : DraftAction} (h : any.act engine action = .ok next) :
    Reaches AnyDraft.call any next := by
  cases action with
  | call call => exact .of_call h
  | apply files options =>
    have happlied := mapError_eq_ok_iff.mp h
    cases any with
    | server draft =>
      obtain ⟨own, hown, hnext⟩ := Attempt.value_bind_eq_ok_iff.mp happlied
      cases Attempt.value_pure_eq_ok_iff.mp hnext
      exact reaches_server (Options.reaches_of_apply hown)
    | client client =>
      obtain ⟨own, hown, hnext⟩ := Attempt.value_bind_eq_ok_iff.mp happlied
      cases Attempt.value_pure_eq_ok_iff.mp hnext
      exact reaches_client (Options.reaches_of_apply hown)

/-- **What actions make of an empty draft, a run of calls makes of it.** -/
theorem exists_ofRun_eq (engine : Engine) (role : Role) (actions : List DraftAction) :
    ∃ calls, ofRun role calls = ofActions engine role actions :=
  runFrom_preserves (P := Reaches AnyDraft.call (.empty role))
    (fun _ _ _ hstate hact => hstate.trans (reaches_of_act hact)) (.refl _)

/-- What actions end in is what the calls of some run say. -/
theorem exists_builtBy {role : Role} {actions : List DraftAction} {profile : Profile}
    (h : ((ofActions engine role actions).build engine).run.value = .ok profile) :
    ∃ calls, profile.BuiltBy engine calls := by
  obtain ⟨calls, hcalls⟩ := exists_ofRun_eq engine role actions
  rw [← hcalls] at h
  exact ⟨calls, builtBy_of_build h⟩

end AnyDraft

end TlsIdentity
