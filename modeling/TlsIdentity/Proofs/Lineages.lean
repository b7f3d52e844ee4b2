import TlsIdentity.Proofs.AppliedOptions
import TlsIdentity.Proofs.Relations
import TlsIdentity.Workbench

/-!
# Where drafts and profiles come from

In a session drafts and profiles of many names change, are copied and are made anew, and steps that concern
different names stand between each other in any order. Looking back from the last change, `lineage?` tells
of a draft how it began and what was done to it, before a copy to the draft that it was copied from and
after it to the copy, and `origin?` tells of a profile the lineage of its draft at the time when it was
made. A lineage can be replayed on a draft that stands alone, with no workbench around it. The invariant is
that every name holds what the replay gives (`Tracks`): one change that succeeds keeps it (`Tracks.change`),
and so does a whole session.
-/

namespace TlsIdentity

/-! ## Lineages -/

/-- How a draft begins: empty, or as words describe it. -/
inductive Beginning where
  | empty (role : Role)
  | words (role : Role) (words : List String)

/-- What a draft is made of: how it began, and what was done to it since. -/
structure Lineage where
  beginning : Beginning
  steps : List DraftStep

/-- What a profile is made of. -/
inductive Origin where
  /-- A draft of this lineage. -/
  | draft (lineage : Lineage)
  /-- One credential, for every peer. -/
  | presenting (credential : Credential)

/-- The draft with which a lineage begins. -/
def Beginning.draft (beginning : Beginning) (engine : Engine) (files : FileSource) :
    Except StepError AnyDraft :=
  match beginning with
  | .empty role => .ok (.empty role)
  | .words role given => (AnyDraft.ofWords engine files role given).run.value

/-- What a step does to a draft, once its words are read. -/
def DraftStep.action (files : FileSource) : DraftStep → Except StepError DraftAction
  | .call own => .ok (.call own)
  | .applyWords words => ((Options.ofWords words).mapError .usage).map (.apply files)

/-- The draft after a step that is done to it alone. -/
def AnyDraft.take (engine : Engine) (files : FileSource) (any : AnyDraft) (step : DraftStep) :
    Except StepError AnyDraft := do
  any.act engine (← step.action files)

/-- The draft after all steps of a lineage. -/
def Lineage.replay (lineage : Lineage) (engine : Engine) (files : FileSource) :
    Except StepError AnyDraft := do
  lineage.steps.foldlM (AnyDraft.take engine files) (← lineage.beginning.draft engine files)

/-- The lineage with one more step. -/
def Lineage.followedBy (lineage : Lineage) (step : DraftStep) : Lineage :=
  { lineage with steps := lineage.steps ++ [step] }

/-- The profile that is made, from nothing else, of its origin. -/
def Origin.rebuild (origin : Origin) (engine : Engine) (files : FileSource) : Except StepError Profile :=
  match origin with
  | .draft lineage => do
    let any ← lineage.replay engine files
    (any.build engine).run.value.mapError .config
  | .presenting credential => (Profile.presenting engine credential).run.value.mapError .config

/-! ## Looking back -/

/-- The lineage of the draft under a name, after changes of which the latest stands first. -/
def lineage? : List Change → String → Option Lineage
  | [], _ => none
  | .begin draft role :: earlier, name =>
    if name = draft then some ⟨.empty role, []⟩ else lineage? earlier name
  | .beginWith draft role words :: earlier, name =>
    if name = draft then some ⟨.words role words, []⟩ else lineage? earlier name
  | .draft draft step :: earlier, name =>
    if name = draft then (lineage? earlier draft).map (·.followedBy step) else lineage? earlier name
  | .fork draft copy :: earlier, name =>
    if name = copy then lineage? earlier draft else lineage? earlier name
  | _ :: earlier, name => lineage? earlier name

/-- The origin of the profile under a name, after changes of which the latest stands first. -/
def origin? : List Change → String → Option Origin
  | [], _ => none
  | .build draft profile :: earlier, name =>
    if name = profile then (lineage? earlier draft).map .draft else origin? earlier name
  | .present credential profile :: earlier, name =>
    if name = profile then some (.presenting credential) else origin? earlier name
  | .copy profile copy :: earlier, name =>
    if name = copy then origin? earlier profile else origin? earlier name
  | _ :: earlier, name => origin? earlier name

/-! ## What a change does -/

namespace Workbench

/-- What a change that succeeds makes of a workbench. -/
inductive Changes (engine : Engine) (bench : Workbench) : Change → Workbench → Prop
  | begin (name : String) (role : Role) :
    Changes engine bench (.begin name role) (bench.putDraft name (.empty role))
  | beginWith (name : String) {role : Role} {words : List String} {any : AnyDraft} :
    (AnyDraft.ofWords engine bench.files role words).run.value = .ok any →
      Changes engine bench (.beginWith name role words) (bench.putDraft name any)
  | draft {name : String} {step : DraftStep} {any next : AnyDraft} :
    bench.drafts.get? name = some any → any.take engine bench.files step = .ok next →
      Changes engine bench (.draft name step) (bench.putDraft name next)
  | fork {name : String} (copy : String) {any : AnyDraft} :
    bench.drafts.get? name = some any → Changes engine bench (.fork name copy) (bench.putDraft copy any)
  | build {name : String} (profileName : String) {any : AnyDraft} {profile : Profile} :
    bench.drafts.get? name = some any → (any.build engine).run.value = .ok profile →
      Changes engine bench (.build name profileName) (bench.putProfile profileName profile)
  | present (profileName : String) {credential : Credential} {profile : Profile} :
    (Profile.presenting engine credential).run.value = .ok profile →
      Changes engine bench (.present credential profileName) (bench.putProfile profileName profile)
  | copy {name : String} (copy : String) {profile : Profile} :
    bench.profiles.get? name = some profile →
      Changes engine bench (.copy name copy) (bench.putProfile copy profile)

variable {engine : Engine} {bench next : Workbench} {name : String} {change : Change}

theorem draft_eq_ok_iff {any : AnyDraft} :
    bench.draft name = .ok any ↔ bench.drafts.get? name = some any := by
  unfold draft
  cases bench.drafts.get? name <;> simp

theorem profile_eq_ok_iff {profile : Profile} :
    bench.profile name = .ok profile ↔ bench.profiles.get? name = some profile := by
  unfold Workbench.profile
  cases bench.profiles.get? name <;> simp

/-- What a step does to a draft on a workbench, it does to the draft alone. -/
theorem changeDraft_eq_ok {step : DraftStep} {any : AnyDraft}
    (h : (bench.changeDraft engine name step).run.value = .ok any) :
    ∃ old, bench.drafts.get? name = some old ∧ old.take engine bench.files step = .ok any := by
  cases step with
  | call call =>
    obtain ⟨old, hold, hcall⟩ := Attempt.value_bind_eq_ok_iff.mp h
    exact ⟨old, draft_eq_ok_iff.mp hold, hcall⟩
  | applyWords words =>
    obtain ⟨options, hoptions, h⟩ := Attempt.value_bind_eq_ok_iff.mp h
    obtain ⟨old, hold, happly⟩ := Attempt.value_bind_eq_ok_iff.mp h
    have hread : Options.ofWords words = .ok options :=
      mapError_eq_ok_iff.mp (Attempt.value_ofExcept_eq_ok_iff.mp hoptions)
    refine ⟨old, draft_eq_ok_iff.mp hold, ?_⟩
    rw [AnyDraft.take, DraftStep.action, hread]
    exact mapError_eq_ok_iff.mpr (Attempt.value_adapt_eq_ok_iff.mp happly)

/-- **All that a change that succeeds can do.** -/
theorem changes_of_change {made : Option Profile}
    (h : (bench.change engine change).run.value = .ok (next, made)) :
    Changes engine bench change next := by
  unfold Workbench.change at h
  cases change with
  | begin name role =>
    cases Attempt.value_pure_eq_ok_iff.mp h
    exact .begin name role
  | beginWith name role words =>
    obtain ⟨any, hany, h⟩ := Attempt.value_bind_eq_ok_iff.mp h
    cases Attempt.value_pure_eq_ok_iff.mp h
    exact .beginWith name hany
  | draft name step =>
    obtain ⟨any, hany, h⟩ := Attempt.value_bind_eq_ok_iff.mp h
    cases Attempt.value_pure_eq_ok_iff.mp h
    obtain ⟨old, hold, htake⟩ := changeDraft_eq_ok hany
    exact .draft hold htake
  | fork name copy =>
    obtain ⟨any, hany, h⟩ := Attempt.value_bind_eq_ok_iff.mp h
    cases Attempt.value_pure_eq_ok_iff.mp h
    exact .fork copy (draft_eq_ok_iff.mp hany)
  | build name profileName =>
    obtain ⟨any, hany, h⟩ := Attempt.value_bind_eq_ok_iff.mp h
    obtain ⟨profile, hprofile, h⟩ := Attempt.value_bind_eq_ok_iff.mp h
    cases Attempt.value_pure_eq_ok_iff.mp h
    exact .build profileName (draft_eq_ok_iff.mp hany) (Attempt.value_adapt_eq_ok_iff.mp hprofile)
  | present credential profileName =>
    obtain ⟨profile, hprofile, h⟩ := Attempt.value_bind_eq_ok_iff.mp h
    cases Attempt.value_pure_eq_ok_iff.mp h
    exact .present profileName (Attempt.value_adapt_eq_ok_iff.mp hprofile)
  | copy name copy =>
    obtain ⟨profile, hprofile, h⟩ := Attempt.value_bind_eq_ok_iff.mp h
    cases Attempt.value_pure_eq_ok_iff.mp h
    exact .copy copy (profile_eq_ok_iff.mp hprofile)

/-- The workbench after a change. -/
def changed (engine : Engine) (bench : Workbench) (change : Change) : Except StepError Workbench :=
  (bench.change engine change).run.value.map (·.1)

theorem changes_of_changed (h : changed engine bench change = .ok next) :
    Changes engine bench change next := by
  obtain ⟨outcome, houtcome, rfl⟩ := map_eq_ok_iff.mp h
  exact changes_of_change houtcome

end Workbench

/-! ## Keeping track -/

open Workbench (changed Changes)

/-- Every name of the workbench holds what comes of its lineage or origin alone. -/
structure Tracks (engine : Engine) (files : FileSource) (bench : Workbench) (history : List Change) :
    Prop where
  files_eq : bench.files = files
  drafts : ∀ name, Option.Rel (fun lineage any => lineage.replay engine files = .ok any)
    (lineage? history name) (bench.drafts.get? name)
  profiles : ∀ name, Option.Rel (fun origin profile => origin.rebuild engine files = .ok profile)
    (origin? history name) (bench.profiles.get? name)

variable {engine : Engine} {files : FileSource} {bench next : Workbench} {history : List Change}
  {latest : Change} {name : String}

theorem Lineage.replay_followedBy {lineage : Lineage} {step : DraftStep} {any next : AnyDraft}
    (h : lineage.replay engine files = .ok any) (hstep : any.take engine files step = .ok next) :
    (lineage.followedBy step).replay engine files = .ok next := by
  unfold replay at h ⊢
  show (lineage.beginning.draft engine files >>= fun first =>
    (lineage.steps ++ [step]).foldlM (AnyDraft.take engine files) first) = .ok next
  cases hfirst : lineage.beginning.draft engine files with
  | error error =>
    rw [hfirst] at h
    cases h
  | ok first =>
    rw [hfirst] at h
    exact foldlM_snoc_eq_ok_iff.mpr ⟨any, h, hstep⟩

namespace Tracks

theorem empty : Tracks engine files { files } [] where
  files_eq := rfl
  drafts _ := .none
  profiles _ := .none

theorem exists_lineage (h : Tracks engine files bench history) {any : AnyDraft}
    (hany : bench.drafts.get? name = some any) :
    ∃ lineage, lineage? history name = some lineage ∧ lineage.replay engine files = .ok any := by
  have hdraft := h.drafts name
  rw [hany] at hdraft
  obtain ⟨lineage, hlineage, hreplay⟩ := exists_of_rel_some hdraft
  exact ⟨lineage, hlineage, hreplay⟩

theorem exists_origin (h : Tracks engine files bench history) {profile : Profile}
    (hprofile : bench.profiles.get? name = some profile) :
    ∃ origin, origin? history name = some origin ∧ origin.rebuild engine files = .ok profile := by
  have horigin := h.profiles name
  rw [hprofile] at horigin
  obtain ⟨origin, hfound, hrebuild⟩ := exists_of_rel_some horigin
  exact ⟨origin, hfound, hrebuild⟩

/-- A draft is put under a name, and its lineage is the one that is seen there. -/
theorem putDraft (h : Tracks engine files bench history) {lineage : Lineage} {any : AnyDraft}
    (hreplay : lineage.replay engine files = .ok any)
    (hlineage : ∀ other, lineage? (latest :: history) other =
      if other = name then some lineage else lineage? history other)
    (horigin : ∀ other, origin? (latest :: history) other = origin? history other) :
    Tracks engine files (bench.putDraft name any) (latest :: history) where
  files_eq := h.files_eq
  drafts other := by
    show Option.Rel _ _ ((bench.drafts.put name any).get? other)
    rw [hlineage, Entries.get?_put]
    by_cases hother : other = name
    · rw [if_pos hother, if_pos hother]
      exact .some hreplay
    · rw [if_neg hother, if_neg hother]
      exact h.drafts other
  profiles other := by
    rw [horigin]
    exact h.profiles other

/-- A profile is put under a name, and its origin is the one that is seen there. -/
theorem putProfile (h : Tracks engine files bench history) {origin : Origin} {profile : Profile}
    (hrebuild : origin.rebuild engine files = .ok profile)
    (hlineage : ∀ other, lineage? (latest :: history) other = lineage? history other)
    (horigin : ∀ other, origin? (latest :: history) other =
      if other = name then some origin else origin? history other) :
    Tracks engine files (bench.putProfile name profile) (latest :: history) where
  files_eq := h.files_eq
  drafts other := by
    rw [hlineage]
    exact h.drafts other
  profiles other := by
    show Option.Rel _ _ ((bench.profiles.put name profile).get? other)
    rw [horigin, Entries.get?_put]
    by_cases hother : other = name
    · rw [if_pos hother, if_pos hother]
      exact .some hrebuild
    · rw [if_neg hother, if_neg hother]
      exact h.profiles other

/-- **One change more**, and every name still holds what comes of its lineage or origin alone. -/
theorem change (h : Tracks engine files bench history) (hchange : Changes engine bench latest next) :
    Tracks engine files next (latest :: history) := by
  obtain rfl := h.files_eq
  cases hchange with
  | begin name role =>
    have hreplay : Lineage.replay ⟨.empty role, []⟩ engine bench.files = .ok (.empty role) := rfl
    exact h.putDraft hreplay (fun _ => rfl) fun _ => rfl
  | @beginWith name role words any hany =>
    have hreplay : Lineage.replay ⟨.words role words, []⟩ engine bench.files = .ok any := by
      simp only [Lineage.replay, Beginning.draft, hany]
      rfl
    exact h.putDraft hreplay (fun _ => rfl) fun _ => rfl
  | @draft name step any after hany hstep =>
    obtain ⟨lineage, hlineage, hreplay⟩ := h.exists_lineage hany
    refine h.putDraft (Lineage.replay_followedBy hreplay hstep) (fun other => ?_) fun _ => rfl
    rw [lineage?, hlineage]
    rfl
  | fork copy hany =>
    obtain ⟨lineage, hlineage, hreplay⟩ := h.exists_lineage hany
    refine h.putDraft hreplay (fun other => ?_) fun _ => rfl
    rw [lineage?, hlineage]
  | @build name profileName any profile hany hprofile =>
    obtain ⟨lineage, hlineage, hreplay⟩ := h.exists_lineage hany
    have hrebuild : (Origin.draft lineage).rebuild engine bench.files = .ok profile := by
      simp only [Origin.rebuild, hreplay]
      exact mapError_eq_ok_iff.mpr hprofile
    refine h.putProfile hrebuild (fun _ => rfl) fun other => ?_
    rw [origin?, hlineage]
    rfl
  | @present profileName credential profile hprofile =>
    have hrebuild : (Origin.presenting credential).rebuild engine bench.files = .ok profile := by
      rw [Origin.rebuild]
      exact mapError_eq_ok_iff.mpr hprofile
    exact h.putProfile hrebuild (fun _ => rfl) fun _ => rfl
  | copy copy hprofile =>
    obtain ⟨origin, horigin, hrebuild⟩ := h.exists_origin hprofile
    refine h.putProfile hrebuild (fun _ => rfl) fun other => ?_
    rw [origin?, horigin]

/-- **A whole run of changes** keeps it too; those that fail leave no trace. -/
theorem run (h : Tracks engine files bench history) (changes : List Change) :
    Tracks engine files (runFrom (changed engine) bench changes)
      ((taken (changed engine) bench changes).reverse ++ history) := by
  induction changes generalizing bench history with
  | nil => exact h
  | cons change rest ih =>
    cases hchange : changed engine bench change with
    | error error =>
      rw [runFrom_cons_error hchange, taken_cons_error hchange]
      exact ih h
    | ok next =>
      rw [runFrom_cons_ok hchange, taken_cons_ok hchange, List.reverse_cons, List.append_assoc]
      exact ih (h.change (Workbench.changes_of_changed hchange))

end Tracks

end TlsIdentity
