import TlsIdentity.Catalogue
import TlsIdentity.Proofs.Configurations
import TlsIdentity.Proofs.LoadedOptions
import TlsIdentity.Proofs.Snapshots

/-!
# Customizers, one after the other

A run leaves a draft with the customizers of its calls, in their order, and otherwise with what the same run
leaves without these calls (`AnyDraft.ofActions_eq`): no other call and nothing that is loaded asks for
customizers. The profiles differ in the chain alone, so a configuration of the one is that of the other with
each customizer run on it once, from the first to the last.
-/

namespace TlsIdentity

/-! ## Chains -/

/-- To run a list again and again is to run its copies one after the other. -/
theorem repeat_foldl {σ κ : Type} (step : σ → κ → σ) (calls : List κ) (times : Nat) (state : σ) :
    times.repeat (calls.foldl step) state = (List.replicate times calls).flatten.foldl step state := by
  induction times with
  | zero => rfl
  | succ times ih =>
    rw [List.replicate_succ', List.flatten_append, List.foldl_append, ← ih, List.flatten_singleton]
    rfl

/-- The configuration after one customizer. -/
def ClientConfig.adjustedBy (config : ClientConfig) (customizer : Customizer) : ClientConfig :=
  { config with settings := customizer.onClient config.settings }

/-- The configuration after one customizer. -/
def ServerConfig.adjustedBy (config : ServerConfig) (customizer : Customizer) : ServerConfig :=
  { config with settings := customizer.onServer config.settings }

theorem ClientConfig.foldl_adjustedBy (chain : CustomizerChain) (config : ClientConfig) :
    chain.foldl adjustedBy config = { config with settings := chain.applyClient config.settings } := by
  induction chain generalizing config with
  | nil => rfl
  | cons customizer rest ih => exact ih _

theorem ServerConfig.foldl_adjustedBy (chain : CustomizerChain) (config : ServerConfig) :
    chain.foldl adjustedBy config = { config with settings := chain.applyServer config.settings } := by
  induction chain generalizing config with
  | nil => rfl
  | cons customizer rest ih => exact ih _

/-! ## Profiles -/

namespace Profile

/-- The profile with another chain of customizers. -/
def withCustomizers (profile : Profile) (chain : CustomizerChain) : Profile :=
  { profile with customizers := chain }

variable {profile : Profile}

/-- A chain runs on what the profile configures without one. -/
theorem clientConfig_withCustomizers (h : profile.customizers = []) (chain : CustomizerChain) (host : String) :
    (profile.withCustomizers chain).clientConfig host =
      (fun config => chain.foldl ClientConfig.adjustedBy config) <$> profile.clientConfig host := by
  simp only [clientConfig, map_bind, map_pure, ClientConfig.foldl_adjustedBy, h]
  rfl

theorem serverConfig_withCustomizers (h : profile.customizers = []) (chain : CustomizerChain)
    (engine : Engine) (auth : ClientAuth) :
    (profile.withCustomizers chain).serverConfig engine auth =
      (profile.serverConfig engine auth).map fun config => chain.foldl ServerConfig.adjustedBy config := by
  have hverifier :
      (profile.withCustomizers chain).clientVerifier engine auth = profile.clientVerifier engine auth :=
    rfl
  have hsuites : (profile.withCustomizers chain).requireSuites = profile.requireSuites := rfl
  rw [serverConfig, serverConfig, hverifier, hsuites]
  cases profile.requireSuites with
  | error error => rfl
  | ok _ =>
    cases profile.clientVerifier engine auth with
    | error error => rfl
    | ok verifier =>
      show Except.ok _ = Except.ok (chain.foldl ServerConfig.adjustedBy _)
      rw [ServerConfig.foldl_adjustedBy, h]
      rfl

end Profile

/-! ## Drafts -/

/-- The draft with another chain of customizers. -/
def Draft.withCustomizers (draft : Draft) (chain : CustomizerChain) : Draft :=
  { draft with customizers := chain }

theorem Draft.call_withCustomizers {call : DraftCall} (h : call.customizer? = none) (draft : Draft)
    (chain : CustomizerChain) :
    (draft.withCustomizers chain).call call = (draft.call call).map (·.withCustomizers chain) := by
  rw [call_eq, call_eq]
  cases call.unfit? with
  | some host => rfl
  | none =>
    show Except.ok ((draft.withCustomizers chain).after call) = .ok ((draft.after call).withCustomizers chain)
    simp only [after, withCustomizers, h, Option.toList_none, List.append_nil]

theorem Draft.freeze_withCustomizers (draft : Draft) (chain : CustomizerChain) (engine : Engine)
    (trust : TrustPolicy) :
    (draft.withCustomizers chain).freeze engine trust =
      (·.withCustomizers chain) <$> draft.freeze engine trust := by
  have htrusted : (draft.withCustomizers chain).trusted = draft.trusted := rfl
  refine ExceptT.ext ?_
  rw [ExceptT.run_map, run_freeze, run_freeze, htrusted]
  cases engine.anchors draft.trusted with
  | error error => rfl
  | ok anchors =>
    refine Reported.ext ?_ rfl
    rw [Reported.events_map]
    rfl

/-- The customizer that an action adds. -/
def DraftAction.customizer? : DraftAction → Option Customizer
  | .call (.common own) => own.customizer?
  | _ => none

theorem DraftAction.eq_of_customizer? {action : DraftAction} {customizer : Customizer}
    (h : action.customizer? = some customizer) : action = .call (.common (.customize customizer)) := by
  cases action with
  | apply files options => cases h
  | call call =>
    cases call with
    | exemption call => cases h
    | common call =>
      cases call with
      | customize own =>
        cases h
        rfl
      | _ => cases h

/-- The customizers that actions add, in their order. -/
def customizersOf (actions : List DraftAction) : CustomizerChain :=
  actions.filterMap DraftAction.customizer?

/-- The actions that add no customizer, in their order. -/
def withoutCustomizers (actions : List DraftAction) : List DraftAction :=
  actions.filter (·.customizer?.isNone)

namespace AnyDraft

/-- The draft with another chain of customizers. -/
def withCustomizers (any : AnyDraft) (chain : CustomizerChain) : AnyDraft :=
  match any with
  | .server draft => .server (draft.withCustomizers chain)
  | .client draft => .client { draft with common := draft.common.withCustomizers chain }

variable {any next : AnyDraft} {engine : Engine} {action : DraftAction} {chain : CustomizerChain}

@[simp] theorem common_withCustomizers :
    (any.withCustomizers chain).common = any.common.withCustomizers chain := by
  cases any <;> rfl

theorem build_withCustomizers (any : AnyDraft) (chain : CustomizerChain) (engine : Engine) :
    (any.withCustomizers chain).build engine = (·.withCustomizers chain) <$> any.build engine := by
  cases any with
  | server draft => exact draft.freeze_withCustomizers chain engine _
  | client draft => exact draft.common.freeze_withCustomizers chain engine _

/-- A customizer is added at the end. -/
theorem call_customize (any : AnyDraft) (customizer : Customizer) :
    any.call (.common (.customize customizer)) =
      .ok (any.withCustomizers (any.common.customizers ++ [customizer])) := by
  cases any <;> rfl

theorem call_withCustomizers {call : ClientCall} (h : (DraftAction.call call).customizer? = none)
    (any : AnyDraft) (chain : CustomizerChain) :
    (any.withCustomizers chain).call call = (any.call call).map (·.withCustomizers chain) := by
  cases any with
  | server draft =>
    cases call with
    | exemption call => rfl
    | common call =>
      rw [withCustomizers, call_server_common, call_server_common, draft.call_withCustomizers h]
      cases draft.call call <;> rfl
  | client draft =>
    rw [withCustomizers, call_client, call_client]
    cases call with
    | exemption call =>
      rw [ClientDraft.call_exemption, ClientDraft.call_exemption]
      cases draft.exemption.call call <;> rfl
    | common call =>
      rw [ClientDraft.call_common, ClientDraft.call_common, draft.common.call_withCustomizers h]
      cases draft.common.call call <;> rfl

/-- An action that adds no customizer does not ask for those that are there. -/
theorem act_withCustomizers (h : action.customizer? = none) :
    (any.withCustomizers chain).act engine action = .ok next ↔
      ∃ own, any.act engine action = .ok own ∧ own.withCustomizers chain = next := by
  cases action with
  | call call =>
    show (any.withCustomizers chain).call call = .ok next ↔ ∃ own, any.call call = .ok own ∧ _
    rw [call_withCustomizers h, map_eq_ok_iff]
  | apply files options =>
    have hbackend : (any.withCustomizers chain).common.backend engine = any.common.backend engine := by
      rw [common_withCustomizers]
      rfl
    have hloaded : ∀ loaded, (any.withCustomizers chain).withLoaded loaded =
        (any.withLoaded loaded).withCustomizers chain := by
      intro loaded
      cases any <;> rfl
    simp only [act, mapError_eq_ok_iff, applyOptions_eq_ok_iff, hbackend, hloaded]
    constructor
    · rintro ⟨loaded, hloads, rfl⟩
      exact ⟨_, ⟨loaded, hloads, rfl⟩, rfl⟩
    · rintro ⟨_, ⟨loaded, hloads, rfl⟩, rfl⟩
      exact ⟨loaded, hloads, rfl⟩

/-- So what is kept of an action differs in the chain alone, also where the action fails. -/
theorem keepOnError_act_withCustomizers (h : action.customizer? = none) :
    keepOnError (any.withCustomizers chain) ((any.withCustomizers chain).act engine action) =
      (keepOnError any (any.act engine action)).withCustomizers chain := by
  cases hact : any.act engine action with
  | ok next =>
    rw [(act_withCustomizers h).mpr ⟨next, hact, rfl⟩]
    rfl
  | error error =>
    cases hown : (any.withCustomizers chain).act engine action with
    | error _ => rfl
    | ok next =>
      obtain ⟨own, hsuccess, _⟩ := (act_withCustomizers h).mp hown
      rw [hact] at hsuccess
      cases hsuccess

/-- **What a run leaves**: the customizers of its actions after those that were there, and otherwise what the
    run leaves without these actions. -/
theorem runFrom_withCustomizers (any : AnyDraft) (chain : CustomizerChain) (actions : List DraftAction) :
    runFrom (act engine) (any.withCustomizers chain) actions =
      (runFrom (act engine) any (withoutCustomizers actions)).withCustomizers
        (chain ++ customizersOf actions) := by
  induction actions generalizing any chain with
  | nil =>
    show any.withCustomizers chain = any.withCustomizers (chain ++ [])
    rw [List.append_nil]
  | cons action rest ih =>
    show runFrom (act engine) (keepOnError _ ((any.withCustomizers chain).act engine action)) rest = _
    cases hcustomizer : action.customizer? with
    | some customizer =>
      have hchain : customizersOf (action :: rest) = customizer :: customizersOf rest :=
        List.filterMap_cons_some hcustomizer
      have hplain : withoutCustomizers (action :: rest) = withoutCustomizers rest :=
        List.filter_cons_of_neg (by rw [hcustomizer]; nofun)
      have hact : (any.withCustomizers chain).act engine action =
          .ok (any.withCustomizers (chain ++ [customizer])) := by
        rw [DraftAction.eq_of_customizer? hcustomizer]
        cases any <;> rfl
      rw [hact, hchain, hplain, List.append_cons chain customizer (customizersOf rest)]
      exact ih any (chain ++ [customizer])
    | none =>
      have hchain : customizersOf (action :: rest) = customizersOf rest :=
        List.filterMap_cons_none hcustomizer
      have hplain : withoutCustomizers (action :: rest) = action :: withoutCustomizers rest :=
        List.filter_cons_of_pos (by rw [hcustomizer]; rfl)
      rw [keepOnError_act_withCustomizers hcustomizer, ih, hchain, hplain]
      rfl

/-- What a run of actions leaves on an empty draft. -/
theorem ofActions_eq (engine : Engine) (role : Role) (actions : List DraftAction) :
    ofActions engine role actions =
      (ofActions engine role (withoutCustomizers actions)).withCustomizers (customizersOf actions) := by
  have hempty : AnyDraft.empty role = (AnyDraft.empty role).withCustomizers [] := by
    cases role <;> rfl
  rw [ofActions, hempty, runFrom_withCustomizers, List.nil_append]
  rfl

theorem customizers_ofActions (engine : Engine) (role : Role) (actions : List DraftAction) :
    (ofActions engine role actions).common.customizers = customizersOf actions := by
  rw [ofActions_eq, common_withCustomizers]
  rfl

end AnyDraft

theorem customizersOf_withoutCustomizers (actions : List DraftAction) :
    customizersOf (withoutCustomizers actions) = [] := by
  simp [customizersOf, withoutCustomizers, List.filterMap_eq_nil_iff]

/-! ## Copies of drafts -/

/-- The step that adds a customizer to the draft of a name. -/
def Step.customize (name : String) (customizer : Customizer) : Step :=
  .change (.draft name (.call (.common (.customize customizer))))

/-- The customizers that are added to the draft of a name, in their order. -/
def addedTo (name : String) (added : List (String × Customizer)) : CustomizerChain :=
  (added.filter (·.1 = name)).map (·.2)

namespace Workbench

variable {engine : Engine} {bench : Workbench} {name : String} {any : AnyDraft}

theorem changed_customize (h : bench.drafts.get? name = some any) (engine : Engine)
    (customizer : Customizer) :
    changed engine bench (.draft name (.call (.common (.customize customizer)))) =
      .ok (bench.putDraft name (any.withCustomizers (any.common.customizers ++ [customizer]))) := by
  simp only [changed, Workbench.change, changeDraft, draft_eq_ok_iff.mpr h, AnyDraft.call_customize]
  rfl

/-- A customizer that is added to a draft changes that draft and no other. -/
theorem drafts_get?_customize (h : bench.drafts.get? name = some any) (engine : Engine) (time : Nat)
    (target : String) (customizer : Customizer) :
    (bench.step engine time (.customize target customizer)).1.drafts.get? name =
      some (if target = name then any.withCustomizers (any.common.customizers ++ [customizer]) else any) := by
  rw [Step.customize, fst_step_change]
  by_cases htarget : target = name
  · subst htarget
    rw [changed_customize h, if_pos rfl]
    exact Entries.get?_put_self
  · rw [if_neg htarget, ← h]
    cases hchange : changed engine bench (.draft target (.call (.common (.customize customizer)))) with
    | error error => rfl
    | ok next =>
      exact (changes_of_changed hchange).drafts_get?_of_ne fun hname => htarget (Option.some.inj hname)

/-- **Drafts keep their customizers apart**: each ends with those that were added to it. -/
theorem drafts_get?_run_customize (h : bench.drafts.get? name = some any) (engine : Engine) (time : Nat)
    (added : List (String × Customizer)) :
    (bench.run engine time (added.map fun entry => .customize entry.1 entry.2)).1.drafts.get? name =
      some (any.withCustomizers (any.common.customizers ++ addedTo name added)) := by
  induction added generalizing bench any with
  | nil =>
    show bench.drafts.get? name = some (any.withCustomizers (any.common.customizers ++ []))
    rw [h, List.append_nil]
    cases any <;> rfl
  | cons entry rest ih =>
    obtain ⟨target, customizer⟩ := entry
    have hfirst := drafts_get?_customize h engine time target customizer
    show ((bench.step engine time (.customize target customizer)).1.run engine time _).1.drafts.get? name = _
    rw [ih hfirst]
    by_cases htarget : target = name
    · have hadded : addedTo name ((target, customizer) :: rest) = customizer :: addedTo name rest := by
        simp [addedTo, htarget]
      rw [if_pos htarget, hadded, AnyDraft.common_withCustomizers]
      show some ((any.withCustomizers (any.common.customizers ++ [customizer])).withCustomizers
        ((any.common.customizers ++ [customizer]) ++ addedTo name rest)) = _
      rw [List.append_assoc, List.singleton_append]
      cases any <;> rfl
    · have hadded : addedTo name ((target, customizer) :: rest) = addedTo name rest := by
        simp [addedTo, htarget]
      rw [if_neg htarget, hadded]

/-- **A draft and its copy keep their customizers apart.** -/
theorem drafts_get?_run_fork (h : bench.drafts.get? name = some any) (engine : Engine) (time : Nat)
    (copy : String) (added : List (String × Customizer)) :
    let last := (bench.run engine time
      (.change (.fork name copy) :: added.map fun entry => .customize entry.1 entry.2)).1
    last.drafts.get? name = some (any.withCustomizers (any.common.customizers ++ addedTo name added)) ∧
      last.drafts.get? copy = some (any.withCustomizers (any.common.customizers ++ addedTo copy added)) := by
  have hforked : (bench.step engine time (.change (.fork name copy))).1 = bench.putDraft copy any := by
    have hchanged : changed engine bench (.fork name copy) = .ok (bench.putDraft copy any) := by
      simp only [changed, Workbench.change, draft_eq_ok_iff.mpr h]
      rfl
    rw [fst_step_change, hchanged]
    rfl
  have hname : (bench.putDraft copy any).drafts.get? name = some any := by
    show (bench.drafts.put copy any).get? name = some any
    rw [Entries.get?_put, h, ite_self]
  have hcopy : (bench.putDraft copy any).drafts.get? copy = some any := Entries.get?_put_self
  rw [← hforked] at hname hcopy
  exact ⟨drafts_get?_run_customize hname engine time added, drafts_get?_run_customize hcopy engine time added⟩

/-- To ask for customized settings is to run the copies of the chain. -/
theorem query_customize {profile : Profile} (h : bench.profiles.get? name = some profile) (engine : Engine)
    (time times : Nat) :
    (bench.query engine time (.customize name times)).run = pure (.ok (.settings
      (CustomizerChain.applyClient (List.replicate times profile.customizers).flatten {})
      (CustomizerChain.applyServer (List.replicate times profile.customizers).flatten {}))) := by
  have hclient := repeat_foldl (fun settings (customizer : Customizer) => customizer.onClient settings)
    profile.customizers times {}
  have hserver := repeat_foldl (fun settings (customizer : Customizer) => customizer.onServer settings)
    profile.customizers times {}
  simp only [Workbench.query, profile_eq_ok_iff.mpr h]
  rw [CustomizerChain.applyClient, CustomizerChain.applyServer, ← hclient, ← hserver]
  rfl

/-- Queries leave the workbench as it is, and each is answered as if it were the only one. -/
theorem run_queries (bench : Workbench) (engine : Engine) (time : Nat) (queries : List Query) :
    bench.run engine time (queries.map .query) =
      (bench, queries.map fun query => (bench.step engine time (.query query)).2) := by
  induction queries with
  | nil => rfl
  | cons query rest ih =>
    have hrun : bench.run engine time ((query :: rest).map .query) =
        ((bench.run engine time (rest.map .query)).1,
          (bench.step engine time (.query query)).2 :: (bench.run engine time (rest.map .query)).2) := rfl
    rw [hrun, ih]
    rfl

end Workbench

/-! ## Customizing -/

/-- **Customizers run one after the other, once for each configuration.** Let a draft of a server or a client
    be made by calls and by applied options in any order.

    * It is built into a profile, with the same reports, exactly if it is without the customizers, and else
      fails alike; the profiles differ in the chain alone, which has the customizers in the order of their
      calls.
    * For every host and every demand on clients, a configuration is made exactly if it is without the
      customizers. It is that configuration after the customizers, the first of them first and each of them
      once.
    * To customize settings several times is to run so many copies of the chain in a row, and to run two chains
      one after the other is to run the one that has the first and then the second.
    * After a draft was copied, customizers that are added to it or to its copy, in any order, are the
      customizers of that one alone.
    * However often configurations are made of profiles, nothing changes, and each is made as if it were the
      only one. -/
theorem customizers_run_in_turn (engine : Engine) (role : Role) (actions : List DraftAction) :
    let chain := customizersOf actions
    let full := AnyDraft.ofActions engine role actions
    let plain := AnyDraft.ofActions engine role (withoutCustomizers actions)
    full.build engine = (fun base => base.withCustomizers chain) <$> plain.build engine ∧
    (∀ base, (plain.build engine).run.value = .ok base →
      (∀ host, (base.withCustomizers chain).clientConfig host =
        (fun config => chain.foldl ClientConfig.adjustedBy config) <$> base.clientConfig host) ∧
      ∀ auth, (base.withCustomizers chain).serverConfig engine auth =
        (base.serverConfig engine auth).map fun config => chain.foldl ServerConfig.adjustedBy config) ∧
    (∀ (bench : Workbench) (time times : Nat) (name : String) (profile : Profile),
      bench.profiles.get? name = some profile →
        (bench.query engine time (.customize name times)).run = pure (.ok (.settings
          (CustomizerChain.applyClient (List.replicate times profile.customizers).flatten {})
          (CustomizerChain.applyServer (List.replicate times profile.customizers).flatten {})))) ∧
    (∀ (own : CustomizerChain) (times : Nat),
      (∀ settings, times.repeat own.applyClient settings =
        CustomizerChain.applyClient (List.replicate times own).flatten settings) ∧
      ∀ settings, times.repeat own.applyServer settings =
        CustomizerChain.applyServer (List.replicate times own).flatten settings) ∧
    (∀ first later : CustomizerChain,
      (∀ settings, later.applyClient (first.applyClient settings) =
        CustomizerChain.applyClient (first ++ later) settings) ∧
      ∀ settings, later.applyServer (first.applyServer settings) =
        CustomizerChain.applyServer (first ++ later) settings) ∧
    (∀ (bench : Workbench) (time : Nat) (name copy : String) (any : AnyDraft),
      bench.drafts.get? name = some any → ∀ added : List (String × Customizer),
        let last := (bench.run engine time
          (.change (.fork name copy) :: added.map fun entry => .customize entry.1 entry.2)).1
        last.drafts.get? name =
            some (any.withCustomizers (any.common.customizers ++ addedTo name added)) ∧
          last.drafts.get? copy =
            some (any.withCustomizers (any.common.customizers ++ addedTo copy added))) ∧
    ∀ (bench : Workbench) (time : Nat) (queries : List Query),
      bench.run engine time (queries.map .query) =
        (bench, queries.map fun query => (bench.step engine time (.query query)).2) := by
  intro chain full plain
  refine ⟨?_, ?_, ?_, ?_, ?_, ?_, fun bench time queries => bench.run_queries engine time queries⟩
  · show (AnyDraft.ofActions engine role actions).build engine = _
    rw [AnyDraft.ofActions_eq, AnyDraft.build_withCustomizers]
  · intro base hbase
    have hnone : base.customizers = [] := by
      rw [AnyDraft.build_eq_freeze, Draft.freeze_eq_ok_iff] at hbase
      obtain ⟨_, rfl⟩ := hbase
      show plain.common.customizers = []
      rw [AnyDraft.customizers_ofActions, customizersOf_withoutCustomizers]
    exact ⟨base.clientConfig_withCustomizers hnone chain, base.serverConfig_withCustomizers hnone chain engine⟩
  · intro bench time times name profile hprofile
    exact Workbench.query_customize hprofile engine time times
  · intro own times
    exact ⟨repeat_foldl _ own times, repeat_foldl _ own times⟩
  · intro first later
    exact ⟨fun _ => List.foldl_append.symm, fun _ => List.foldl_append.symm⟩
  · intro bench time name copy any hany added last
    exact Workbench.drafts_get?_run_fork hany engine time copy added

/-- One customizer adds a protocol and the next one adds a copy of all, with a refused registration between
    them. A client offers the protocol twice: in the other order it would be offered once, and so it would be
    if the second customizer did not run, or four times if it ran twice. -/
theorem pushed_protocol_is_repeated_once :
    let engine := Catalogue.engine []
    let own : Credential := ⟨none, [⟨[1]⟩], ⟨"key", some .ecdsa⟩⟩
    let actions : List DraftAction :=
      [.call (.common (.customize (.ofMutations [.shared (.pushProtocol "h2")]))),
        .call (.common (.set "x..y" own)),
        .call (.common (.customize (.ofMutations [.shared .repeatProtocols])))]
    ∃ profile, ((AnyDraft.ofActions engine .client actions).build engine).run.value = .ok profile ∧
      ∃ config, (profile.clientConfig "a.com").run.value = .ok config ∧
        config.settings.protocols = ["h2", "h2"] := by
  intro engine own actions
  obtain ⟨hbuild, hconfig, _⟩ := customizers_run_in_turn engine .client actions
  let plain := AnyDraft.ofActions engine .client (withoutCustomizers actions)
  let base := plain.common.frozen engine plain.policy
  have hplain : (plain.build engine).run.value = .ok base := by
    rw [AnyDraft.build_eq_freeze]
    exact Draft.freeze_of_trusted_eq_nil rfl engine plain.policy
  obtain ⟨hclient, _⟩ := hconfig base hplain
  have hbase : (base.clientConfig "a.com").run.value = .ok (base.clientConfigFor "a.com") :=
    Profile.clientConfig_eq_ok_iff.mpr ⟨rfl, rfl⟩
  refine ⟨base.withCustomizers (customizersOf actions), ?_,
    (customizersOf actions).foldl ClientConfig.adjustedBy (base.clientConfigFor "a.com"), ?_, by rfl⟩
  · rw [hbuild, ExceptT.run_map, Reported.value_map]
    exact congrArg (Except.map _) hplain
  · rw [hclient, ExceptT.run_map, Reported.value_map, hbase]
    rfl

end TlsIdentity
