import Mathlib.Data.List.Induction
import TlsIdentity.Catalogue
import TlsIdentity.Proofs.BuiltProfiles
import TlsIdentity.Proofs.CanonicalNames
import TlsIdentity.Proofs.Runs

/-!
# Verification off for all or for some

A client's draft leaves all servers unverified or chosen ones, never both. The state in which calls leave
a draft is a function of the calls alone, `tally`; from it follow when a chain of calls succeeds, which
policy comes of it, and which call is refused and why. Runs need one more thing: the order `Extends` in
which an exemption only grows.
-/

namespace TlsIdentity

namespace Exemption

/-! ## Reading the listed hosts -/

theorem singleHost_of_isSingleHost {text : String} (h : HostPattern.isSingleHost text = true) :
    singleHost text = .ok (HostName.canonical text) := by
  unfold singleHost HostPattern.ofText
  rw [HostPattern.isSingleHost_iff.mp h]
  rfl

theorem singleHost_of_not_isSingleHost {text : String} (h : ¬ HostPattern.isSingleHost text = true) :
    singleHost text = .error (.invalidHost text) := by
  unfold singleHost HostPattern.ofText
  cases hp : HostPattern.ofText? text with
  | none => rfl
  | some pattern =>
    cases pattern with
    | exact name =>
      have hname := (HostPattern.ofText?_eq_some_exact_iff.mp hp).1
      exact absurd (HostPattern.isSingleHost_iff.mpr (hname ▸ hp)) h
    | any => rfl
    | below parent => rfl

/-- The first text of a list that does not stand for a single host. -/
def firstUnfit? (hosts : List String) : Option String :=
  hosts.find? fun host => !HostPattern.isSingleHost host

theorem firstUnfit?_eq_none_iff {hosts : List String} :
    firstUnfit? hosts = none ↔ ∀ host ∈ hosts, HostPattern.isSingleHost host = true := by
  simp [firstUnfit?]

/-- **A list of hosts is read up to the first that is not one**, which is the error, as it was given. -/
theorem mapM_singleHost (hosts : List String) :
    hosts.mapM singleHost =
      match firstUnfit? hosts with
      | none => .ok (hosts.map HostName.canonical)
      | some host => .error (.invalidHost host) := by
  induction hosts with
  | nil => rfl
  | cons host rest ih =>
    rw [List.mapM_cons]
    by_cases h : HostPattern.isSingleHost host = true
    · have hfirst : firstUnfit? (host :: rest) = firstUnfit? rest := by
        simp [firstUnfit?, h]
      rw [singleHost_of_isSingleHost h, ih, hfirst]
      cases firstUnfit? rest <;> rfl
    · have hfirst : firstUnfit? (host :: rest) = some host := by
        simp [firstUnfit?, h]
      rw [singleHost_of_not_isSingleHost h, hfirst]
      rfl

/-- The exemption with hosts of these canonical names besides. Without names it is the same. -/
def add (exemption : Exemption) (names : List String) : Exemption :=
  match exemption with
  | .nobody => if names = [] then .nobody else .chosen (HostSet.ofList names)
  | .everybody => .everybody
  | .chosen hosts => .chosen (hosts.insertMany names)

/-- Unless everybody is exempt already, listing hosts adds them or fails at the first unfit one. -/
theorem exemptHosts_eq {exemption : Exemption} (h : exemption ≠ .everybody) (hosts : List String) :
    exemption.exemptHosts hosts =
      match firstUnfit? hosts with
      | none => .ok (exemption.add (hosts.map HostName.canonical))
      | some host => .error (.invalidHost host) := by
  have hread := mapM_singleHost hosts
  cases exemption with
  | everybody => exact absurd rfl h
  | nobody =>
    rw [exemptHosts, hread]
    cases firstUnfit? hosts <;> rfl
  | chosen names =>
    rw [exemptHosts, hread]
    cases firstUnfit? hosts <;> rfl

/-! ## What calls come to -/

/-- The hosts that a call lists. -/
def listed : ExemptionCall → List String
  | .exemptAll => []
  | .exemptHosts hosts => hosts

/-- The hosts that calls list, all of them, as they were given. -/
def allListed (calls : List ExemptionCall) : List String :=
  calls.flatMap listed

/-- The exemption that calls come to: everybody if any call said so, else the listed hosts. -/
def tally (calls : List ExemptionCall) : Exemption :=
  if .exemptAll ∈ calls then .everybody
  else if allListed calls = [] then .nobody
  else .chosen (HostSet.ofList ((allListed calls).map HostName.canonical))

/-- Why a call is refused after `earlier` ones that were not: the other kind of exemption is in force,
    which is looked at first, or a listed text is not a single host. -/
def refusal? (earlier : List ExemptionCall) : ExemptionCall → Option ConfigError
  | .exemptAll => if allListed earlier = [] then none else some .verificationConflict
  | .exemptHosts hosts =>
    if .exemptAll ∈ earlier then some .verificationConflict
    else (firstUnfit? hosts).map .invalidHost

/-- Calls that go together: every listed text is a single host, and either no call is for everybody or
    every list is empty and stands before the first such call. -/
structure Compatible (calls : List ExemptionCall) : Prop where
  singleHosts : ∀ host ∈ allListed calls, HostPattern.isSingleHost host = true
  oneKind : .exemptAll ∉ calls ∨ ∀ before hosts after, calls = before ++ .exemptHosts hosts :: after →
    hosts = [] ∧ .exemptAll ∉ before

theorem mem_allListed {calls : List ExemptionCall} {host : String} :
    host ∈ allListed calls ↔ ∃ hosts, .exemptHosts hosts ∈ calls ∧ host ∈ hosts := by
  unfold allListed
  rw [List.mem_flatMap]
  constructor
  · rintro ⟨call, hcall, hhost⟩
    cases call with
    | exemptAll => cases hhost
    | exemptHosts hosts => exact ⟨hosts, hcall, hhost⟩
  · rintro ⟨hosts, hcall, hhost⟩
    exact ⟨.exemptHosts hosts, hcall, hhost⟩

theorem allListed_snoc (calls : List ExemptionCall) (call : ExemptionCall) :
    allListed (calls ++ [call]) = allListed calls ++ listed call := by
  simp [allListed]

theorem mem_snoc_iff {calls : List ExemptionCall} {one call : ExemptionCall} :
    one ∈ calls ++ [call] ↔ one ∈ calls ∨ one = call := by
  rw [List.mem_append, List.mem_singleton]

/-! ## One more call -/

variable {calls : List ExemptionCall} {call : ExemptionCall}

/-- Calls that go together and are for everybody list nothing. -/
theorem Compatible.allListed_eq_nil (h : Compatible calls) (hall : .exemptAll ∈ calls) :
    allListed calls = [] := by
  rw [List.eq_nil_iff_forall_not_mem]
  intro host hhost
  obtain ⟨hosts, hcall, hmem⟩ := mem_allListed.mp hhost
  obtain ⟨before, after, hsplit⟩ := List.append_of_mem hcall
  -- both kinds of call are there, so every list is empty
  rcases h.oneKind with hnone | hempty
  · exact hnone hall
  · rw [(hempty before hosts after hsplit).1] at hmem
    exact List.not_mem_nil hmem

theorem Compatible.nil : Compatible [] where
  singleHosts _ hhost := absurd hhost List.not_mem_nil
  oneKind := .inl List.not_mem_nil

theorem Compatible.of_snoc (h : Compatible (calls ++ [call])) : Compatible calls where
  singleHosts host hhost := by
    apply h.singleHosts
    rw [allListed_snoc]
    exact List.mem_append_left _ hhost
  oneKind := by
    rcases h.oneKind with hnone | hempty
    · exact .inl fun hall => hnone (List.mem_append_left _ hall)
    · right
      intro before hosts after hsplit
      apply hempty before hosts (after ++ [call])
      rw [hsplit, List.append_assoc]
      rfl

/-- Calls that go together refuse none of them. -/
theorem Compatible.refusal?_eq_none (h : Compatible (calls ++ [call])) : refusal? calls call = none := by
  cases call with
  | exemptAll =>
    have hall : .exemptAll ∈ calls ++ [.exemptAll] := mem_snoc_iff.mpr (.inr rfl)
    have hnil := h.allListed_eq_nil hall
    rw [allListed_snoc, List.append_eq_nil_iff] at hnil
    rw [refusal?, if_pos hnil.1]
  | exemptHosts hosts =>
    -- a call for everybody may stand after this list, but not before it
    have hbefore : .exemptAll ∉ calls := by
      rcases h.oneKind with hnone | hempty
      · exact fun hall => hnone (mem_snoc_iff.mpr (.inl hall))
      · exact (hempty calls hosts [] rfl).2
    have hfit : firstUnfit? hosts = none := by
      rw [firstUnfit?_eq_none_iff]
      intro host hhost
      apply h.singleHosts
      rw [allListed_snoc]
      exact List.mem_append_right _ hhost
    rw [refusal?, if_neg hbefore, hfit]
    rfl

/-- Where nothing is listed, a call for everybody may come last. -/
theorem Compatible.snoc_exemptAll (h : Compatible calls) (hnil : allListed calls = []) :
    Compatible (calls ++ [.exemptAll]) := by
  refine ⟨?_, .inr ?_⟩
  · intro host hhost
    rw [allListed_snoc, hnil] at hhost
    exact absurd hhost List.not_mem_nil
  · intro before hosts after hsplit
    -- the call for everybody is the last one, so the list stands among the earlier calls
    obtain ⟨rest, hrest⟩ : ∃ rest, calls = before ++ .exemptHosts hosts :: rest := by
      rcases List.eq_nil_or_concat after with rfl | ⟨rest, last, rfl⟩
      · have hlast := congrArg List.getLast? hsplit
        simp at hlast
      · rw [List.concat_eq_append, ← List.cons_append, ← List.append_assoc] at hsplit
        exact ⟨rest, (List.append_inj' hsplit rfl).1⟩
    have hmem : .exemptHosts hosts ∈ calls := by
      rw [hrest]
      simp
    constructor
    · rw [List.eq_nil_iff_forall_not_mem]
      intro host hhost
      have hlisted := mem_allListed.mpr ⟨hosts, hmem, hhost⟩
      rw [hnil] at hlisted
      exact List.not_mem_nil hlisted
    · rcases h.oneKind with hnone | hempty
      · intro hall
        apply hnone
        rw [hrest]
        exact List.mem_append_left _ hall
      · exact (hempty before hosts rest hrest).2

/-- Where no call is for everybody, a list of single hosts may come last. -/
theorem Compatible.snoc_exemptHosts (h : Compatible calls) (hall : .exemptAll ∉ calls)
    {hosts : List String} (hfit : firstUnfit? hosts = none) :
    Compatible (calls ++ [.exemptHosts hosts]) := by
  refine ⟨?_, .inl ?_⟩
  · intro host hhost
    rw [allListed_snoc, List.mem_append] at hhost
    rcases hhost with hhost | hhost
    · exact h.singleHosts host hhost
    · exact firstUnfit?_eq_none_iff.mp hfit host hhost
  · rw [mem_snoc_iff]
    rintro (hmem | heq)
    · exact hall hmem
    · cases heq

theorem Compatible.snoc (h : Compatible calls) (hcall : refusal? calls call = none) :
    Compatible (calls ++ [call]) := by
  cases call with
  | exemptAll =>
    by_cases hnil : allListed calls = []
    · exact h.snoc_exemptAll hnil
    · rw [refusal?, if_neg hnil] at hcall
      cases hcall
  | exemptHosts hosts =>
    by_cases hall : .exemptAll ∈ calls
    · rw [refusal?, if_pos hall] at hcall
      cases hcall
    · rw [refusal?, if_neg hall, Option.map_eq_none_iff] at hcall
      exact h.snoc_exemptHosts hall hcall

theorem compatible_snoc_iff :
    Compatible (calls ++ [call]) ↔ Compatible calls ∧ refusal? calls call = none :=
  ⟨fun h => ⟨h.of_snoc, h.refusal?_eq_none⟩, fun h => h.1.snoc h.2⟩

theorem tally_eq_everybody_iff : tally calls = .everybody ↔ .exemptAll ∈ calls := by
  unfold tally
  by_cases hall : .exemptAll ∈ calls
  · rw [if_pos hall]
    exact ⟨fun _ => hall, fun _ => rfl⟩
  · rw [if_neg hall]
    constructor
    · intro h
      split at h <;> cases h
    · exact fun h => absurd h hall

theorem tally_snoc_exemptAll : tally (calls ++ [.exemptAll]) = .everybody :=
  tally_eq_everybody_iff.mpr (mem_snoc_iff.mpr (.inr rfl))

theorem tally_snoc_exemptHosts (hall : .exemptAll ∉ calls) (hosts : List String) :
    tally (calls ++ [.exemptHosts hosts]) = (tally calls).add (hosts.map HostName.canonical) := by
  have hnext : .exemptAll ∉ calls ++ [.exemptHosts hosts] := by
    rw [mem_snoc_iff]
    rintro (hmem | heq)
    · exact hall hmem
    · cases heq
  -- adding names to a set and making one of all the names are the same fold
  rw [tally, tally, if_neg hnext, if_neg hall, allListed_snoc, listed]
  by_cases hnil : allListed calls = []
  · rw [if_pos hnil, hnil, add, List.nil_append]
    simp only [List.map_eq_nil_iff]
  · rw [if_neg hnil, if_neg (fun h => hnil (List.append_eq_nil_iff.mp h).1), add, List.map_append,
      HostSet.ofList, HostSet.ofList, HostSet.insertMany, List.foldl_append]
    rfl

/-- **Step lemma.** After calls that go together the next one is refused for the reason that the calls
    give, or it is added to them. -/
theorem call_tally (h : Compatible calls) :
    (tally calls).call call =
      match refusal? calls call with
      | some error => .error error
      | none => .ok (tally (calls ++ [call])) := by
  cases call with
  | exemptAll =>
    rw [tally_snoc_exemptAll, refusal?]
    by_cases hall : .exemptAll ∈ calls
    · rw [tally_eq_everybody_iff.mpr hall, if_pos (h.allListed_eq_nil hall)]
      rfl
    · rw [tally, if_neg hall]
      by_cases hnil : allListed calls = []
      · rw [if_pos hnil, if_pos hnil]
        rfl
      · rw [if_neg hnil, if_neg hnil]
        rfl
  | exemptHosts hosts =>
    rw [refusal?]
    by_cases hall : .exemptAll ∈ calls
    · rw [tally_eq_everybody_iff.mpr hall, if_pos hall]
      rfl
    · rw [if_neg hall, tally_snoc_exemptHosts hall hosts, Exemption.call,
        exemptHosts_eq (fun he => hall (tally_eq_everybody_iff.mp he))]
      cases firstUnfit? hosts <;> rfl

theorem call_tally_eq_ok_iff (h : Compatible calls) {next : Exemption} :
    (tally calls).call call = .ok next ↔ refusal? calls call = none ∧ next = tally (calls ++ [call]) := by
  rw [call_tally h]
  cases refusal? calls call with
  | some error => simp
  | none => simp [eq_comm]

theorem call_tally_eq_error_iff (h : Compatible calls) {error : ConfigError} :
    (tally calls).call call = .error error ↔ refusal? calls call = some error := by
  rw [call_tally h]
  cases refusal? calls call with
  | some other => simp
  | none => simp

/-! ## Chains and runs -/

/-- **Chain lemma.** A chain of calls succeeds exactly if they go together, and then it ends in what they
    come to. -/
theorem foldlM_call_eq_ok_iff {last : Exemption} :
    calls.foldlM Exemption.call .nobody = .ok last ↔ Compatible calls ∧ last = tally calls := by
  -- by the last call: the calls before it have come to their tally
  induction calls using List.reverseRecOn generalizing last with
  | nil =>
    constructor
    · intro h
      cases h
      exact ⟨Compatible.nil, rfl⟩
    · rintro ⟨_, rfl⟩
      rfl
  | append_singleton calls call ih =>
    rw [foldlM_snoc_eq_ok_iff, compatible_snoc_iff]
    constructor
    · rintro ⟨mid, hmid, hcall⟩
      obtain ⟨hcompatible, rfl⟩ := ih.mp hmid
      obtain ⟨hrefusal, rfl⟩ := (call_tally_eq_ok_iff hcompatible).mp hcall
      exact ⟨⟨hcompatible, hrefusal⟩, rfl⟩
    · rintro ⟨⟨hcompatible, hrefusal⟩, rfl⟩
      exact ⟨tally calls, ih.mpr ⟨hcompatible, rfl⟩,
        (call_tally_eq_ok_iff hcompatible).mpr ⟨hrefusal, rfl⟩⟩

/-- A chain fails at the first call that is refused, for the reason that the earlier calls give. -/
theorem foldlM_call_eq_error_iff {error : ConfigError} :
    calls.foldlM Exemption.call .nobody = .error error ↔
      ∃ earlier call later, calls = earlier ++ call :: later ∧ Compatible earlier ∧
        refusal? earlier call = some error := by
  rw [foldlM_eq_error_iff]
  constructor
  · rintro ⟨earlier, call, later, mid, hsplit, hmid, hcall⟩
    obtain ⟨hcompatible, rfl⟩ := foldlM_call_eq_ok_iff.mp hmid
    exact ⟨earlier, call, later, hsplit, hcompatible, (call_tally_eq_error_iff hcompatible).mp hcall⟩
  · rintro ⟨earlier, call, later, hsplit, hcompatible, hrefusal⟩
    exact ⟨earlier, call, later, tally earlier, hsplit,
      foldlM_call_eq_ok_iff.mpr ⟨hcompatible, rfl⟩,
      (call_tally_eq_error_iff hcompatible).mpr hrefusal⟩

/-- **Run lemma.** The calls of a run that succeed go together, and the run ends in what they come to. -/
theorem runFrom_call_eq_tally (calls : List ExemptionCall) :
    Compatible (taken Exemption.call .nobody calls) ∧
      runFrom Exemption.call .nobody calls = tally (taken Exemption.call .nobody calls) :=
  foldlM_call_eq_ok_iff.mp foldlM_taken

/-! ## What every run keeps -/

/-- A set of chosen hosts has members, and each is the stored name of a single host. -/
def Sound : Exemption → Prop
  | .nobody => True
  | .everybody => True
  | .chosen hosts =>
    hosts.toList ≠ [] ∧ ∀ name ∈ hosts.toList, HostPattern.ofText? name = some (.exact name)

/-- `later` exempts all that `earlier` does: a kind of exemption that is in force stays in force, and no
    chosen host is lost. -/
def Extends (earlier later : Exemption) : Prop :=
  match earlier with
  | .nobody => True
  | .everybody => later = .everybody
  | .chosen hosts => ∃ more, later = .chosen more ∧ ∀ name ∈ hosts.toList, name ∈ more.toList

theorem sound_tally (h : Compatible calls) : (tally calls).Sound := by
  unfold tally
  by_cases hall : .exemptAll ∈ calls
  · rw [if_pos hall]
    trivial
  · rw [if_neg hall]
    by_cases hnil : allListed calls = []
    · rw [if_pos hnil]
      trivial
    · rw [if_neg hnil]
      refine ⟨?_, ?_⟩
      -- some host is listed, and its canonical form is a member
      · obtain ⟨host, hhost⟩ := List.exists_mem_of_ne_nil _ hnil
        have hmem := HostSet.mem_ofList.mpr (List.mem_map_of_mem (f := HostName.canonical) hhost)
        exact List.ne_nil_of_mem hmem
      · intro name hname
        obtain ⟨host, hhost, rfl⟩ := List.mem_map.mp (HostSet.mem_ofList.mp hname)
        exact HostPattern.ofText?_of_eq_some_exact
          (HostPattern.isSingleHost_iff.mp (h.singleHosts host hhost))

theorem Extends.refl (exemption : Exemption) : exemption.Extends exemption := by
  cases exemption with
  | nobody => trivial
  | everybody => rfl
  | chosen hosts => exact ⟨hosts, rfl, fun _ h => h⟩

theorem Extends.trans {first second third : Exemption} (h : first.Extends second)
    (h' : second.Extends third) : first.Extends third := by
  cases first with
  | nobody => trivial
  | everybody =>
    cases h
    exact h'
  | chosen hosts =>
    obtain ⟨more, rfl, hmore⟩ := h
    obtain ⟨most, rfl, hmost⟩ := h'
    exact ⟨most, rfl, fun name hname => hmost name (hmore name hname)⟩

/-- A call that succeeds only adds to an exemption. -/
theorem extends_of_call {exemption next : Exemption} (h : exemption.call call = .ok next) :
    exemption.Extends next := by
  cases exemption with
  | nobody => trivial
  | everybody =>
    cases call with
    | exemptAll =>
      cases h
      rfl
    | exemptHosts hosts => cases h
  | chosen names =>
    cases call with
    | exemptAll => cases h
    | exemptHosts hosts =>
      rw [Exemption.call, exemptHosts_eq (by rintro ⟨⟩)] at h
      cases hfit : firstUnfit? hosts with
      | some host =>
        rw [hfit] at h
        cases h
      | none =>
        rw [hfit] at h
        cases h
        exact ⟨_, rfl, fun name hname => HostSet.mem_insertMany.mpr (.inl hname)⟩

theorem extends_runFrom (exemption : Exemption) (calls : List ExemptionCall) :
    exemption.Extends (runFrom Exemption.call exemption calls) :=
  runFrom_preserves (P := exemption.Extends) (fun _ _ _ h hcall => h.trans (extends_of_call hcall))
    (Extends.refl exemption)

end Exemption

/-! ## Clients' drafts -/

namespace ClientDraft

open Exemption

/-- The end of a chain of calls about verification on a client's draft that nothing was said about it
    to, or the error of the first call that fails. -/
def exemptInTurn (draft : Draft) (calls : List ExemptionCall) : Except ConfigError ClientDraft :=
  (calls.map .exemption).foldlM ClientDraft.call { common := draft }

/-- The exemption after a run of such calls, in which a failing call changes nothing. -/
def exemptionAfter (draft : Draft) (calls : List ExemptionCall) : Exemption :=
  (ClientDraft.run { common := draft } (calls.map .exemption)).exemption

theorem exemptInTurn_eq (draft : Draft) (calls : List ExemptionCall) :
    exemptInTurn draft calls =
      (calls.foldlM Exemption.call .nobody).map fun exemption => ⟨draft, exemption⟩ :=
  foldlM_map_exemption { common := draft } calls

theorem exemptionAfter_eq (draft : Draft) (calls : List ExemptionCall) :
    exemptionAfter draft calls = runFrom Exemption.call .nobody calls := by
  have h := isPart_exemption.view_runFrom { common := draft } (calls.map ClientCall.exemption)
  rw [filterMap_exemption?_map] at h
  exact h

theorem exemptInTurn_eq_ok_iff {draft : Draft} {calls : List ExemptionCall} {client : ClientDraft} :
    exemptInTurn draft calls = .ok client ↔ Compatible calls ∧ client = ⟨draft, tally calls⟩ := by
  rw [exemptInTurn_eq, map_eq_ok_iff]
  constructor
  · rintro ⟨last, hchain, rfl⟩
    obtain ⟨hcompatible, rfl⟩ := foldlM_call_eq_ok_iff.mp hchain
    exact ⟨hcompatible, rfl⟩
  · rintro ⟨hcompatible, rfl⟩
    exact ⟨tally calls, foldlM_call_eq_ok_iff.mpr ⟨hcompatible, rfl⟩, rfl⟩

theorem exemptInTurn_eq_error_iff {draft : Draft} {calls : List ExemptionCall} {error : ConfigError} :
    exemptInTurn draft calls = .error error ↔ calls.foldlM Exemption.call .nobody = .error error := by
  rw [exemptInTurn_eq, map_eq_error_iff]

theorem policy_tally (calls : List ExemptionCall) :
    (tally calls).policy =
      if .exemptAll ∈ calls then .skipAll
      else if allListed calls = [] then .verifyAll
      else .skipHosts (HostSet.ofList ((allListed calls).map HostName.canonical)) := by
  unfold tally
  split
  · rfl
  · split <;> rfl

/-- **Verification is off for all servers or for chosen ones, never for both.** Calls about verification,
    made one after the other on a draft that nothing was said about it to:

    * all succeed exactly if they go together (`Compatible`), and then the profile has the policy that the
      calls say, with exactly the listed hosts, in canonical form;
    * the first that fails does so because the other kind of exemption is in force or, where that is not
      so, because of the first listed text that is not a single host (`refusal?`);
    * made as a run, in which failing calls change nothing, they only ever reach exemptions whose hosts
      are single hosts under their stored names, and never take an exemption back. -/
theorem exempt_all_or_chosen (draft : Draft) (calls : List ExemptionCall) :
    ((∃ client, exemptInTurn draft calls = .ok client) ↔ Compatible calls) ∧
    (∀ client, exemptInTurn draft calls = .ok client → ∀ engine,
      (∀ profile, (client.build engine).run.value = .ok profile →
        profile.trust =
          if .exemptAll ∈ calls then .skipAll
          else if allListed calls = [] then .verifyAll
          else .skipHosts (HostSet.ofList ((allListed calls).map HostName.canonical))) ∧
      (draft.trusted = [] → ∃ profile, (client.build engine).run.value = .ok profile)) ∧
    (∀ error, exemptInTurn draft calls = .error error ↔
      ∃ earlier call later, calls = earlier ++ call :: later ∧ Compatible earlier ∧
        refusal? earlier call = some error) ∧
    ∀ earlier later, calls = earlier ++ later →
      (exemptionAfter draft earlier).Sound ∧
        (exemptionAfter draft earlier).Extends (exemptionAfter draft calls) := by
  refine ⟨?_, ?_, ?_, ?_⟩
  · constructor
    · rintro ⟨client, h⟩
      exact (exemptInTurn_eq_ok_iff.mp h).1
    · intro h
      exact ⟨_, exemptInTurn_eq_ok_iff.mpr ⟨h, rfl⟩⟩
  · intro client hclient engine
    obtain ⟨_, rfl⟩ := exemptInTurn_eq_ok_iff.mp hclient
    constructor
    · intro profile hbuild
      obtain ⟨_, rfl⟩ := Draft.freeze_eq_ok_iff.mp hbuild
      exact policy_tally calls
    · intro htrusted
      exact ⟨_, Draft.freeze_of_trusted_eq_nil htrusted engine _⟩
  · intro error
    rw [exemptInTurn_eq_error_iff]
    exact foldlM_call_eq_error_iff
  · rintro earlier later rfl
    rw [exemptionAfter_eq, exemptionAfter_eq, runFrom_append]
    obtain ⟨hcompatible, htally⟩ := runFrom_call_eq_tally earlier
    constructor
    · rw [htally]
      exact sound_tally hcompatible
    · exact extends_runFrom _ later

/-- Two lists, one of them in another spelling, and an empty list between them. -/
theorem exempt_two_lists :
    ∃ profile, (do
        let client ← exemptInTurn {} [.exemptHosts ["A.com."], .exemptHosts [], .exemptHosts ["b.com"]]
        (client.build (Catalogue.engine [])).run.value) = .ok profile ∧
      profile.trust = .skipHosts (HostSet.ofList ["a.com", "b.com"]) := by
  obtain ⟨hsuccess, hbuilt, _⟩ :=
    exempt_all_or_chosen {} [.exemptHosts ["A.com."], .exemptHosts [], .exemptHosts ["b.com"]]
  obtain ⟨client, hclient⟩ := hsuccess.mpr ⟨by decide, .inl (by decide)⟩
  obtain ⟨htrust, hexists⟩ := hbuilt client hclient (Catalogue.engine [])
  obtain ⟨profile, hprofile⟩ := hexists rfl
  refine ⟨profile, ?_, (htrust profile hprofile).trans ?_⟩
  · rw [hclient]
    exact hprofile
  · decide

end ClientDraft

end TlsIdentity
