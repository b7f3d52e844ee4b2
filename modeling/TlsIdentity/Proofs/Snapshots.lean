import TlsIdentity.Catalogue
import TlsIdentity.Proofs.Lineages

/-!
# Profiles are snapshots

A profile answers as the one does that is made, with nothing around it, of the calls that led to its draft
before it was made. In a session this is so for every name at every time, since a session keeps track of
lineages (`Tracks.run`) and a query asks nothing but the profiles that it names (`query_congr`). What later
steps do to other names does not show in the answers: a change touches one name only
(`Changes.drafts_get?_of_ne`, `Changes.profiles_get?_of_ne`), and a step that fails touches none.
-/

namespace TlsIdentity

/-! ## What steps name -/

/-- The change that a step is, if it is one. -/
def Step.change? : Step → Option Change
  | .change own => some own
  | .query _ => none

/-- The draft that a change begins, calls or makes by copying. -/
def Change.draft? : Change → Option String
  | .begin name _ => some name
  | .beginWith name _ _ => some name
  | .draft name _ => some name
  | .fork _ name => some name
  | _ => none

/-- The profile that a change makes. -/
def Change.profile? : Change → Option String
  | .build _ name => some name
  | .present _ name => some name
  | .copy _ name => some name
  | _ => none

/-- The profiles that a query asks. -/
def Query.profiles : Query → List String
  | .show profile => [profile]
  | .find profile _ => [profile]
  | .skips profile _ => [profile]
  | .clientConfig profile _ => [profile]
  | .serverConfig profile _ => [profile]
  | .customize profile _ => [profile]
  | .verify profile .. => [profile]
  | .checkSignature profile _ => [profile]
  | .handshake plan => [plan.client, plan.server]
  | .loadCertificates _ => []
  | .loadCredential .. => []

namespace Workbench

variable {engine : Engine} {bench next other : Workbench} {change : Change} {name : String} {time : Nat}

/-! ## What a change does not touch -/

theorem Changes.files_eq (h : Changes engine bench change next) : next.files = bench.files := by
  cases h <;> rfl

/-- A change touches one draft at most. -/
theorem Changes.drafts_get?_of_ne (h : Changes engine bench change next) (hname : change.draft? ≠ some name) :
    next.drafts.get? name = bench.drafts.get? name := by
  have hput : ∀ own any, some own ≠ some name →
      (bench.drafts.put own any).get? name = bench.drafts.get? name :=
    fun own any hown => Entries.get?_put_of_ne fun hsame => hown (congrArg some hsame.symm)
  cases h with
  | begin | beginWith | draft | fork => exact hput _ _ hname
  | build | present | copy => rfl

/-- A change touches one profile at most. -/
theorem Changes.profiles_get?_of_ne (h : Changes engine bench change next)
    (hname : change.profile? ≠ some name) : next.profiles.get? name = bench.profiles.get? name := by
  have hput : ∀ own profile, some own ≠ some name →
      (bench.profiles.put own profile).get? name = bench.profiles.get? name :=
    fun own profile hown => Entries.get?_put_of_ne fun hsame => hown (congrArg some hsame.symm)
  cases h with
  | begin | beginWith | draft | fork => rfl
  | build | present | copy => exact hput _ _ hname

/-! ## Steps -/

/-- The changes of steps that succeed, of which the latest stands first. -/
def historyOf (bench : Workbench) (engine : Engine) (steps : List Step) : List Change :=
  (taken (changed engine) bench (steps.filterMap Step.change?)).reverse

theorem fst_step_change (bench : Workbench) (engine : Engine) (time : Nat) (change : Change) :
    (bench.step engine time (.change change)).1 = keepOnError bench (changed engine bench change) := by
  unfold Workbench.step changed
  dsimp only
  cases (bench.change engine change).run.value <;> rfl

/-- A step that fails leaves the workbench as it was. -/
theorem fst_step_of_error {step : Step} {error : StepError}
    (h : (bench.step engine time step).2.value = .error error) :
    (bench.step engine time step).1 = bench := by
  cases step with
  | query query => rfl
  | change change =>
    unfold Workbench.step at h ⊢
    dsimp only at h ⊢
    cases hchange : (bench.change engine change).run.value with
    | error error => rfl
    | ok outcome =>
      rw [hchange] at h
      cases h

/-- What a session leaves is what its changes leave. -/
theorem fst_run (bench : Workbench) (engine : Engine) (time : Nat) (steps : List Step) :
    (bench.run engine time steps).1 =
      runFrom (changed engine) bench (steps.filterMap Step.change?) := by
  induction steps generalizing bench with
  | nil => rfl
  | cons step rest ih =>
    show ((bench.step engine time step).1.run engine time rest).1 = _
    rw [ih]
    cases step with
    | query query => rfl
    | change change =>
      rw [fst_step_change]
      rfl

/-- What every change of a session that succeeds leaves alone, the session leaves alone. -/
theorem view_fst_run {α : Type} (view : Workbench → α) {steps : List Step}
    (h : ∀ change ∈ bench.historyOf engine steps, ∀ bench next, Changes engine bench change next →
      view next = view bench) : view (bench.run engine time steps).1 = view bench := by
  rw [fst_run]
  replace h : ∀ change ∈ taken (changed engine) bench (steps.filterMap Step.change?), ∀ bench next,
      Changes engine bench change next → view next = view bench :=
    fun change hchange => h change (List.mem_reverse.mpr hchange)
  generalize steps.filterMap Step.change? = changes at h
  induction changes generalizing bench with
  | nil => rfl
  | cons change rest ih =>
    cases hchange : changed engine bench change with
    | error error =>
      rw [taken_cons_error hchange] at h
      rw [runFrom_cons_error hchange]
      exact ih h
    | ok next =>
      rw [taken_cons_ok hchange] at h
      rw [runFrom_cons_ok hchange, ih fun later hlater => h later (List.mem_cons_of_mem _ hlater)]
      exact h change List.mem_cons_self bench next (changes_of_changed hchange)

/-! ## Queries -/

/-- A query asks the profiles that it names, and the files. -/
theorem query_congr {query : Query} (hfiles : bench.files = other.files)
    (hprofiles : ∀ name ∈ query.profiles, bench.profiles.get? name = other.profiles.get? name) :
    bench.query engine time query = other.query engine time query := by
  have hprofile : ∀ name ∈ query.profiles, bench.profile name = other.profile name := by
    intro name hname
    unfold Workbench.profile
    rw [hprofiles name hname]
  cases query with
  | handshake plan =>
    have hclient := hprofile plan.client (by simp [Query.profiles])
    have hserver := hprofile plan.server (by simp [Query.profiles])
    simp only [Workbench.query, hclient, hserver]
  | loadCertificates path => simp only [Workbench.query, hfiles]
  | loadCredential keyPath certPath backend => simp only [Workbench.query, hfiles]
  | _ => simp only [Workbench.query, hprofile _ List.mem_cons_self]

end Workbench

/-! ## Profiles that stand alone -/

/-- The profile under a name, made of its origin and nothing else. -/
def rebuilt? (engine : Engine) (files : FileSource) (history : List Change) (name : String) :
    Option Profile :=
  (origin? history name).bind fun origin => (origin.rebuild engine files).toOption

/-- The workbench that holds under these names what is rebuilt there, and nothing else. -/
def rebuiltAlone (engine : Engine) (files : FileSource) (history : List Change) (names : List String) :
    Workbench where
  files := files
  profiles := names.filterMap fun name =>
    (rebuilt? engine files history name).map fun profile => (name, profile)

theorem Entries.get?_filterMap {α : Type} (value? : String → Option α) (names : List String)
    (name : String) :
    Entries.get? (names.filterMap fun name => (value? name).map fun value => (name, value)) name =
      if name ∈ names then value? name else none := by
  induction names with
  | nil => rfl
  | cons head rest ih =>
    by_cases hhead : name = head
    · subst hhead
      rw [if_pos List.mem_cons_self]
      cases hvalue : value? name with
      | none =>
        rw [List.filterMap_cons_none (by rw [hvalue, Option.map_none]), ih, hvalue, ite_self]
      | some value =>
        rw [List.filterMap_cons_some (by rw [hvalue, Option.map_some]), get?_cons, if_pos rfl]
    · have hmem : name ∈ head :: rest ↔ name ∈ rest := by
        simp [hhead]
      rw [if_congr hmem rfl rfl, ← ih]
      cases hvalue : value? head with
      | none => rw [List.filterMap_cons_none (by rw [hvalue, Option.map_none])]
      | some value =>
        rw [List.filterMap_cons_some (by rw [hvalue, Option.map_some]), get?_cons, if_neg hhead]

theorem Tracks.rebuilt?_eq {engine : Engine} {files : FileSource} {bench : Workbench} {history : List Change}
    (h : Tracks engine files bench history) (name : String) :
    rebuilt? engine files history name = bench.profiles.get? name := by
  have hname := h.profiles name
  unfold rebuilt?
  generalize origin? history name = origin, bench.profiles.get? name = profile at hname
  cases hname with
  | none => rfl
  | some hrebuild => simp [hrebuild, Except.toOption]

/-- **Profiles are snapshots**, and copies of drafts stand apart. After any session:

    * every draft is what its own lineage makes of it alone, and every profile what is made alone of its
      origin, which is the lineage of its draft at the time when it was made;
    * every query is answered as by profiles that are rebuilt in this way, with nothing else on the
      workbench;
    * no later step on anything else shows in the answers, nor in the drafts;
    * a step that fails leaves all as it was. -/
theorem snapshots_stay_as_built (engine : Engine) (files : FileSource) (time : Nat) (session : List Step) :
    let bench := (({ files } : Workbench).run engine time session).1
    let history := ({ files } : Workbench).historyOf engine session
    (∀ name, (lineage? history name).map (·.replay engine files) = (bench.drafts.get? name).map .ok) ∧
    (∀ name, (origin? history name).map (·.rebuild engine files) =
      (bench.profiles.get? name).map .ok) ∧
    (∀ asked query, bench.query engine asked query =
      (rebuiltAlone engine files history query.profiles).query engine asked query) ∧
    (∀ later query, (∀ change ∈ bench.historyOf engine later, ∀ name ∈ query.profiles,
        change.profile? ≠ some name) →
      ∀ asked, (bench.run engine time later).1.query engine asked query =
        bench.query engine asked query) ∧
    (∀ later name, (∀ change ∈ bench.historyOf engine later, change.draft? ≠ some name) →
      (bench.run engine time later).1.drafts.get? name = bench.drafts.get? name) ∧
    ∀ step error, (bench.step engine time step).2.value = .error error →
      (bench.step engine time step).1 = bench := by
  intro bench history
  have htracks : Tracks engine files bench history := by
    have hempty : Tracks engine files { files } [] := .empty
    have hrun := hempty.run (session.filterMap Step.change?)
    rw [List.append_nil, ← Workbench.fst_run _ _ time] at hrun
    exact hrun
  refine ⟨fun name => map_eq_of_rel (htracks.drafts name), fun name => map_eq_of_rel (htracks.profiles name),
    ?_, ?_, ?_, fun step error => Workbench.fst_step_of_error⟩
  · intro asked query
    refine Workbench.query_congr htracks.files_eq fun name hname => ?_
    show _ = Entries.get? (query.profiles.filterMap _) name
    rw [Entries.get?_filterMap, if_pos hname, htracks.rebuilt?_eq]
  · intro later query hlater asked
    refine Workbench.query_congr ?_ fun name hname => ?_
    · exact Workbench.view_fst_run Workbench.files fun change _ _ _ hchange => hchange.files_eq
    · exact Workbench.view_fst_run (·.profiles.get? name) fun change hmem _ _ hchange =>
        hchange.profiles_get?_of_ne (hlater change hmem name hname)
  · intro later name hlater
    exact Workbench.view_fst_run (·.drafts.get? name) fun change hmem _ _ hchange =>
      hchange.drafts_get?_of_ne (hlater change hmem)

/-- A copy of a profile is kept while its draft goes on, the profile is made anew and a step fails: the copy
    presents what was registered at first, and the new profile what was registered later. -/
theorem copy_outlives_later_changes :
    let engine := Catalogue.engine []
    let own : Credential := ⟨none, [⟨[1]⟩], ⟨"own", some .ecdsa⟩⟩
    let other : Credential := ⟨none, [⟨[2]⟩], ⟨"other", some .ecdsa⟩⟩
    let session : List Step := [.change (.begin "plan" .client),
      .change (.draft "plan" (.call (.common (.set "a.com" own)))), .change (.fork "plan" "fork"),
      .change (.draft "plan" (.call (.exemption .exemptAll))), .change (.build "plan" "first"),
      .change (.copy "first" "kept")]
    let later : List Step := [.change (.draft "plan" (.call (.common (.set "A.com" other)))),
      .change (.draft "plan" (.call (.exemption (.exemptHosts ["b.com"])))),
      .change (.build "plan" "first"), .change (.build "nowhere" "kept")]
    let files := Directory.source []
    let bench := (({ files } : Workbench).run engine 0 session).1
    let last := (bench.run engine 0 later).1
    (∀ change ∈ bench.historyOf engine later, change.profile? ≠ some "kept") ∧
      (last.query engine 0 (.find "kept" ["a.com"])).run.value = .ok (.credentials [some own]) ∧
      (last.query engine 0 (.find "first" ["a.com"])).run.value = .ok (.credentials [some other]) := by
  intro engine own other session later files bench last
  have hlater : ∀ change ∈ bench.historyOf engine later, change.profile? ≠ some "kept" := by
    decide +kernel
  obtain ⟨_, _, _, hkept, _⟩ := snapshots_stay_as_built engine files 0 session
  have hanswer : last.query engine 0 (.find "kept" ["a.com"]) =
      bench.query engine 0 (.find "kept" ["a.com"]) :=
    hkept later (.find "kept" ["a.com"])
      (fun change hchange name hname => List.mem_singleton.mp hname ▸ hlater change hchange) 0
  refine ⟨hlater, ?_, by rfl⟩
  rw [hanswer]
  rfl

end TlsIdentity
