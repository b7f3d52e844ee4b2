import TlsIdentity.Draft

/-!
# Runs of calls

Two ways to make one call after the other. A *chain* stops at the first call that fails and has its
error; a *run* goes on from the state before the failing call. The calls of a run that succeed are a
chain to the same state, so what holds after every chain holds after every run. A client's run is a run
of the calls that every draft takes beside a run of the calls about verification: neither sees the other.
-/

namespace TlsIdentity

section

variable {ε σ κ : Type} {step : σ → κ → Except ε σ} {state last : σ} {call : κ} {calls : List κ} {error : ε}

/-! ## Outcomes -/

theorem map_eq_ok_iff {τ : Type} {f : σ → τ} {outcome : Except ε σ} {value : τ} :
    outcome.map f = .ok value ↔ ∃ state, outcome = .ok state ∧ f state = value := by
  cases outcome with
  | error e =>
    constructor
    · intro h
      cases h
    · rintro ⟨_, h, _⟩
      cases h
  | ok state =>
    constructor
    · intro h
      exact ⟨state, rfl, Except.ok.inj h⟩
    · rintro ⟨_, h, rfl⟩
      cases h
      rfl

/-- An outcome in two steps is a success if both steps are. -/
theorem bind_eq_ok_iff {τ : Type} {outcome : Except ε σ} {next : σ → Except ε τ} {value : τ} :
    (outcome >>= next) = .ok value ↔ ∃ state, outcome = .ok state ∧ next state = .ok value := by
  cases outcome with
  | error e =>
    constructor
    · intro h
      cases h
    · rintro ⟨_, h, _⟩
      cases h
  | ok state =>
    constructor
    · intro h
      exact ⟨state, rfl, h⟩
    · rintro ⟨_, h, hnext⟩
      cases h
      exact hnext

theorem map_eq_error_iff {τ : Type} {f : σ → τ} {outcome : Except ε σ} :
    outcome.map f = .error error ↔ outcome = .error error := by
  cases outcome with
  | error e =>
    constructor <;>
    · intro h
      cases h
      rfl
  | ok state =>
    constructor <;>
    · intro h
      cases h

theorem mapError_eq_ok_iff {ε' : Type} {wrap : ε → ε'} {outcome : Except ε σ} :
    outcome.mapError wrap = .ok last ↔ outcome = .ok last := by
  cases outcome with
  | error e =>
    constructor <;>
    · intro h
      cases h
  | ok state =>
    constructor <;>
    · intro h
      cases h
      rfl

/-- The error of an outcome that is no success. -/
def errorOf? : Except ε σ → Option ε
  | .error error => some error
  | .ok _ => none

theorem errorOf?_eq_some_iff {outcome : Except ε σ} : errorOf? outcome = some error ↔ outcome = .error error := by
  cases outcome <;> simp [errorOf?]

theorem errorOf?_eq_none_iff {outcome : Except ε σ} :
    errorOf? outcome = none ↔ ∃ value, outcome = .ok value := by
  cases outcome <;> simp [errorOf?]

/-- **Of outcomes that are all wanted, the first error is that of the whole.** -/
theorem errorOf?_mapM {τ : Type} (f : κ → Except ε τ) (calls : List κ) :
    errorOf? (calls.mapM f) = calls.findSome? fun call => errorOf? (f call) := by
  induction calls with
  | nil => rfl
  | cons call rest ih =>
    rw [List.mapM_cons, List.findSome?_cons, ← ih]
    cases f call with
    | error e => rfl
    | ok value => cases rest.mapM f <;> rfl

/-! ## Chains -/

theorem foldlM_snoc_eq_ok_iff :
    (calls ++ [call]).foldlM step state = .ok last ↔
      ∃ mid, calls.foldlM step state = .ok mid ∧ step mid call = .ok last := by
  rw [List.foldlM_append]
  cases calls.foldlM step state with
  | error e =>
    constructor
    · intro h
      cases h
    · rintro ⟨mid, h, _⟩
      cases h
  | ok mid =>
    show [call].foldlM step mid = .ok last ↔ _
    rw [List.foldlM_cons, show (fun next => [].foldlM step next) = pure from rfl, bind_pure]
    constructor
    · intro h
      exact ⟨mid, rfl, h⟩
    · rintro ⟨mid', h, hcall⟩
      cases h
      exact hcall

/-- **A chain fails with the error of its first failing call.** -/
theorem foldlM_eq_error_iff :
    calls.foldlM step state = .error error ↔
      ∃ earlier call later mid, calls = earlier ++ call :: later ∧
        earlier.foldlM step state = .ok mid ∧ step mid call = .error error := by
  induction calls generalizing state with
  | nil =>
    constructor
    · intro h
      cases h
    · rintro ⟨earlier, call, later, _, h, _, _⟩
      simp at h
  | cons first rest ih =>
    rw [List.foldlM_cons]
    cases hfirst : step state first with
    | error e =>
      constructor
      · intro h
        injection h with h
        subst h
        exact ⟨[], first, rest, state, rfl, rfl, hfirst⟩
      · rintro ⟨earlier, call, later, mid, h, hmid, hcall⟩
        -- no chain goes past the first call, so nothing stands before the failing one
        cases earlier with
        | nil =>
          cases h
          cases hmid
          rw [hfirst] at hcall
          injection hcall with hcall
          subst hcall
          rfl
        | cons other earlier =>
          cases h
          rw [List.foldlM_cons, hfirst] at hmid
          cases hmid
    | ok next =>
      show rest.foldlM step next = .error error ↔ _
      rw [ih]
      constructor
      · rintro ⟨earlier, call, later, mid, rfl, hmid, hcall⟩
        refine ⟨first :: earlier, call, later, mid, rfl, ?_, hcall⟩
        rw [List.foldlM_cons, hfirst]
        exact hmid
      · rintro ⟨earlier, call, later, mid, h, hmid, hcall⟩
        -- the first call succeeds, so it is one of the earlier ones
        cases earlier with
        | nil =>
          cases h
          cases hmid
          rw [hfirst] at hcall
          cases hcall
        | cons other earlier =>
          cases h
          rw [List.foldlM_cons, hfirst] at hmid
          exact ⟨earlier, call, later, mid, rfl, hmid, hcall⟩

/-! ## Runs -/

/-- The state after a run of calls, each of which leaves it as it was when it fails. -/
def runFrom (step : σ → κ → Except ε σ) (state : σ) (calls : List κ) : σ :=
  calls.foldl (fun state call => keepOnError state (step state call)) state

/-- The calls of a run that succeed. -/
def taken (step : σ → κ → Except ε σ) (state : σ) : List κ → List κ
  | [] => []
  | call :: rest =>
    match step state call with
    | .ok next => call :: taken step next rest
    | .error _ => taken step state rest

theorem runFrom_append {later : List κ} :
    runFrom step state (calls ++ later) = runFrom step (runFrom step state calls) later := by
  rw [runFrom, List.foldl_append]
  rfl

theorem runFrom_cons_ok (h : step state call = .ok last) :
    runFrom step state (call :: calls) = runFrom step last calls := by
  rw [runFrom, List.foldl_cons, h]
  rfl

theorem runFrom_cons_error (h : step state call = .error error) :
    runFrom step state (call :: calls) = runFrom step state calls := by
  rw [runFrom, List.foldl_cons, h]
  rfl

theorem taken_cons_ok (h : step state call = .ok last) :
    taken step state (call :: calls) = call :: taken step last calls := by
  rw [taken, h]

theorem taken_cons_error (h : step state call = .error error) :
    taken step state (call :: calls) = taken step state calls := by
  rw [taken, h]

/-- **The calls that succeed are a chain to where the run ends.** -/
theorem foldlM_taken : (taken step state calls).foldlM step state = .ok (runFrom step state calls) := by
  induction calls generalizing state with
  | nil => rfl
  | cons call rest ih =>
    cases h : step state call with
    | ok next =>
      rw [taken_cons_ok h, runFrom_cons_ok h, List.foldlM_cons, h]
      exact ih
    | error e =>
      rw [taken_cons_error h, runFrom_cons_error h]
      exact ih

/-- What every successful call preserves, every run preserves. -/
theorem runFrom_preserves {P : σ → Prop}
    (hstep : ∀ state call next, P state → step state call = .ok next → P next)
    (hstate : P state) : P (runFrom step state calls) := by
  induction calls generalizing state with
  | nil => exact hstate
  | cons call rest ih =>
    cases h : step state call with
    | ok next =>
      rw [runFrom_cons_ok h]
      exact ih (hstep state call next hstate h)
    | error e =>
      rw [runFrom_cons_error h]
      exact ih hstate

/-! ## Parts

A call may concern one part of the state only. If each part has calls of its own, what a run does to the
part is the run of the part's own calls, however they stand between the others. -/

/-- `view` shows a part of the state, `pick` the calls that concern it, and `part` what they do to it. -/
structure IsPart {τ ι : Type} (step : σ → κ → Except ε σ) (part : τ → ι → Except ε τ) (view : σ → τ)
    (pick : κ → Option ι) : Prop where
  picked : ∀ {state call own}, pick call = some own →
    (step state call).map view = part (view state) own
  passed : ∀ {state call next}, pick call = none → step state call = .ok next → view next = view state

namespace IsPart

variable {τ ι : Type} {part : τ → ι → Except ε τ} {view : σ → τ} {pick : κ → Option ι}

/-- A call that concerns the part succeeds or fails as it does on the part alone. -/
theorem part_of_ok (h : IsPart step part view pick) {own : ι} (hpick : pick call = some own)
    (hok : step state call = .ok last) : part (view state) own = .ok (view last) := by
  rw [← h.picked hpick, hok]
  rfl

theorem part_of_error (h : IsPart step part view pick) {own : ι} (hpick : pick call = some own)
    (herror : step state call = .error error) : part (view state) own = .error error := by
  rw [← h.picked hpick, herror]
  rfl

/-- **A run does to the part what the run of the part's own calls does.** -/
theorem view_runFrom (h : IsPart step part view pick) (state : σ) (calls : List κ) :
    view (runFrom step state calls) = runFrom part (view state) (calls.filterMap pick) := by
  -- a call of another part changes nothing that `view` shows, whether it succeeds or not
  induction calls generalizing state with
  | nil => rfl
  | cons call rest ih =>
    cases hstep : step state call with
    | ok next =>
      rw [runFrom_cons_ok hstep, ih]
      cases hpick : pick call with
      | none => rw [List.filterMap_cons_none hpick, h.passed hpick hstep]
      | some own => rw [List.filterMap_cons_some hpick, runFrom_cons_ok (h.part_of_ok hpick hstep)]
    | error e =>
      rw [runFrom_cons_error hstep, ih]
      cases hpick : pick call with
      | none => rw [List.filterMap_cons_none hpick]
      | some own =>
        rw [List.filterMap_cons_some hpick, runFrom_cons_error (h.part_of_error hpick hstep)]

/-- **The part's own calls succeed in a run exactly where they succeed in the run of them alone.** -/
theorem filterMap_taken (h : IsPart step part view pick) (state : σ) (calls : List κ) :
    (taken step state calls).filterMap pick = taken part (view state) (calls.filterMap pick) := by
  induction calls generalizing state with
  | nil => rfl
  | cons call rest ih =>
    cases hstep : step state call with
    | ok next =>
      rw [taken_cons_ok hstep]
      cases hpick : pick call with
      | none => rw [List.filterMap_cons_none hpick, List.filterMap_cons_none hpick, ih,
          h.passed hpick hstep]
      | some own => rw [List.filterMap_cons_some hpick, List.filterMap_cons_some hpick,
          taken_cons_ok (h.part_of_ok hpick hstep), ih]
    | error e =>
      rw [taken_cons_error hstep, ih]
      cases hpick : pick call with
      | none => rw [List.filterMap_cons_none hpick]
      | some own =>
        rw [List.filterMap_cons_some hpick, taken_cons_error (h.part_of_error hpick hstep)]

end IsPart

end

/-! ## The two halves of a client's draft -/

/-- The call that every draft takes, if this is one. -/
def ClientCall.common? : ClientCall → Option DraftCall
  | .common call => some call
  | .exemption _ => none

/-- The call about verification, if this is one. -/
def ClientCall.exemption? : ClientCall → Option ExemptionCall
  | .common _ => none
  | .exemption call => some call

namespace ClientDraft

theorem call_common (client : ClientDraft) (call : DraftCall) :
    client.call (.common call) =
      (client.common.call call).map fun common => { client with common := common } := by
  show (client.common.call call >>= fun common => pure { client with common := common }) = _
  cases client.common.call call <;> rfl

theorem call_exemption (client : ClientDraft) (call : ExemptionCall) :
    client.call (.exemption call) =
      (client.exemption.call call).map fun exemption => { client with exemption := exemption } := by
  show (client.exemption.call call >>= fun exemption => pure { client with exemption := exemption }) = _
  cases client.exemption.call call <;> rfl

theorem isPart_common : IsPart ClientDraft.call Draft.call common ClientCall.common? where
  picked {client call own} hpick := by
    cases call with
    | exemption call => cases hpick
    | common call =>
      cases hpick
      rw [call_common]
      cases client.common.call own <;> rfl
  passed {client call next} hpick hcall := by
    cases call with
    | common call => cases hpick
    | exemption call =>
      rw [call_exemption, map_eq_ok_iff] at hcall
      obtain ⟨exemption, _, rfl⟩ := hcall
      rfl

theorem isPart_exemption : IsPart ClientDraft.call Exemption.call exemption ClientCall.exemption? where
  picked {client call own} hpick := by
    cases call with
    | common call => cases hpick
    | exemption call =>
      cases hpick
      rw [call_exemption]
      cases client.exemption.call own <;> rfl
  passed {client call next} hpick hcall := by
    cases call with
    | exemption call => cases hpick
    | common call =>
      rw [call_common, map_eq_ok_iff] at hcall
      obtain ⟨common, _, rfl⟩ := hcall
      rfl

/-- A chain of calls about verification is that chain on the exemption. -/
theorem foldlM_map_exemption (client : ClientDraft) (calls : List ExemptionCall) :
    (calls.map .exemption).foldlM ClientDraft.call client =
      (calls.foldlM Exemption.call client.exemption).map
        fun exemption => { client with exemption := exemption } := by
  induction calls generalizing client with
  | nil => rfl
  | cons call rest ih =>
    rw [List.map_cons, List.foldlM_cons, List.foldlM_cons, call_exemption]
    cases client.exemption.call call with
    | error error => rfl
    | ok exemption => exact ih { client with exemption := exemption }

theorem filterMap_exemption?_map (calls : List ExemptionCall) :
    (calls.map ClientCall.exemption).filterMap ClientCall.exemption? = calls := by
  rw [List.filterMap_map]
  exact List.filterMap_some

end ClientDraft

end TlsIdentity
