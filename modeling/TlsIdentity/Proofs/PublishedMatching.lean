import TlsIdentity.Catalogue
import TlsIdentity.Proofs.Configurations
import TlsIdentity.Proofs.RegistrationOrder
import TlsIdentity.Proofs.RunParts

/-!
# Look-up and the test of a single pattern

`textCovers` tells of a pattern's text and a host, in any spelling of either, whether the one covers the
other. Look-up never sees these texts: it asks the patterns that a draft has stored. The two agree all the
same. Of all patterns, three at most cover a given host, one of each kind; `covering` lists them, the
narrowest first, and look-up takes the first of them that is registered (`History.resolve?_eq_findSome?`).
The rest is to see that what a run stores is what the texts of its calls stand for.
-/

namespace TlsIdentity

/-! ## The patterns that cover a host -/

namespace HostPattern

variable {pattern : HostPattern} {name : String}

/-- How narrow a pattern is: a single host is narrower than a level, and a level than all hosts. -/
def narrowness : HostPattern → Nat
  | .any => 0
  | .below _ => 1
  | .exact _ => 2

/-- The patterns that cover the host of a canonical name, the narrowest first. -/
def covering (name : String) : List HostPattern :=
  .exact name :: ((afterFirstDot? name).toList.map .below ++ [.any])

theorem mem_covering_iff : pattern ∈ covering name ↔ pattern.covers name = true := by
  rw [covering, List.mem_cons, List.mem_append, List.mem_map, List.mem_singleton]
  cases pattern with
  | any => simp [covers]
  | exact own => simp [covers]
  | below parent => simp [covers_below_iff]

theorem covering_pairwise (name : String) :
    (covering name).Pairwise fun first later => later.narrowness < first.narrowness := by
  cases hparent : afterFirstDot? name <;> simp [covering, hparent, narrowness]

end HostPattern

/-! ## Look-up in a history -/

namespace History

open HostPattern

variable {α : Type} {history : History α} {host : String} {identity : α}

/-- **Look-up takes the narrowest pattern that covers the host and is registered.** -/
theorem resolve?_eq_findSome? (history : History α) (host : String) :
    history.resolve? host = (covering (HostName.canonical host)).findSome? (lastFor history) := by
  rw [History.resolve?_eq, covering, List.findSome?_cons]
  cases lastFor history (.exact (HostName.canonical host)) with
  | some identity => rfl
  | none =>
    cases afterFirstDot? (HostName.canonical host) with
    | none => rw [Option.toList_none, List.map_nil, List.nil_append, List.findSome?_singleton]; rfl
    | some parent =>
      rw [Option.toList_some, List.map_singleton, List.singleton_append, List.findSome?_cons,
        List.findSome?_singleton, Option.bind_some]
      cases lastFor history (.below parent) <;> rfl

theorem isSome_resolve?_iff :
    (history.resolve? host).isSome = true ↔
      ∃ pattern ∈ history.map (·.1), pattern.covers (HostName.canonical host) = true := by
  rw [resolve?_eq_findSome?, List.findSome?_isSome_iff]
  simp only [isSome_lastFor_iff, mem_covering_iff]
  exact exists_congr fun pattern => and_comm

/-- **Whom a history presents**: the identity of the last registration of the narrowest pattern that
    covers the host. -/
theorem resolve?_eq_some_iff :
    history.resolve? host = some identity ↔
      ∃ pattern, lastFor history pattern = some identity ∧
        pattern.covers (HostName.canonical host) = true ∧
        ∀ other ∈ history.map (·.1), other.covers (HostName.canonical host) = true →
          other.narrowness ≤ pattern.narrowness := by
  have hordered := covering_pairwise (HostName.canonical host)
  rw [resolve?_eq_findSome?, List.findSome?_eq_some_iff]
  constructor
  · rintro ⟨narrower, pattern, wider, hsplit, hlast, hnone⟩
    refine ⟨pattern, hlast, ?_, ?_⟩
    · rw [← mem_covering_iff, hsplit]
      exact List.mem_append_right _ List.mem_cons_self
    · intro other hmem hcovers
      rw [hsplit, List.pairwise_append, List.pairwise_cons] at hordered
      rw [← mem_covering_iff, hsplit, List.mem_append, List.mem_cons] at hcovers
      -- a registered pattern does not stand before the one that was found
      rcases hcovers with hbefore | rfl | hafter
      · exact absurd hmem (lastFor_eq_none_iff.mp (hnone other hbefore))
      · exact Nat.le_refl _
      · exact Nat.le_of_lt (hordered.2.1.1 other hafter)
  · rintro ⟨pattern, hlast, hcovers, hnarrow⟩
    obtain ⟨narrower, wider, hsplit⟩ := List.append_of_mem (mem_covering_iff.mpr hcovers)
    refine ⟨narrower, pattern, wider, hsplit, hlast, ?_⟩
    intro other hbefore
    rw [lastFor_eq_none_iff]
    intro hmem
    have hother : other.covers (HostName.canonical host) = true := by
      rw [← mem_covering_iff, hsplit]
      exact List.mem_append_left _ hbefore
    rw [hsplit, List.pairwise_append] at hordered
    have hlt := hordered.2.2 other hbefore pattern List.mem_cons_self
    exact absurd (hnarrow other hmem hother) (Nat.not_le_of_lt hlt)

end History

/-! ## What the calls of a run ask for -/

/-- The text and the credential that a call asks to be registered. The fallback is asked for by the text
    that stands for every host. -/
def DraftCall.request? : DraftCall → Option (String × Credential)
  | .set host credential => some (host, credential)
  | .setFallback credential => some (HostPattern.anyText, credential)
  | _ => none

/-- All that calls ask to be registered, in their order, whether they succeed or fail. -/
def requestsOf (calls : List ClientCall) : List (String × Credential) :=
  (calls.filterMap ClientCall.common?).filterMap DraftCall.request?

/-- The credential of the last request whose text stands for `pattern`. -/
def lastRequested (requests : List (String × Credential)) (pattern : HostPattern) : Option Credential :=
  (requests.reverse.find? fun request => HostPattern.ofText? request.1 = some pattern).map (·.2)

/-- What a request registers, if its text stands for a pattern. -/
def registrationOf? (request : String × Credential) : Option (HostPattern × Credential) :=
  (HostPattern.ofText? request.1).map fun pattern => (pattern, request.2)

theorem DraftCall.registration?_eq (call : DraftCall) :
    call.registration? = call.request?.bind registrationOf? := by
  cases call with
  | setFallback credential =>
    have hany : HostPattern.ofText? HostPattern.anyText = some .any := by decide
    rw [registration?, request?, Option.bind_some, registrationOf?, hany]
    rfl
  | _ => rfl

theorem registeredBy_eq (calls : List ClientCall) :
    registeredBy calls = (requestsOf calls).filterMap registrationOf? := by
  rw [registeredBy, requestsOf, List.filterMap_filterMap (g := registrationOf?)]
  exact congrArg (fun register => List.filterMap register _) (funext DraftCall.registration?_eq)

theorem lastFor_filterMap (requests : List (String × Credential)) (pattern : HostPattern) :
    History.lastFor (requests.filterMap registrationOf?) pattern = lastRequested requests pattern := by
  induction requests using List.reverseRecOn with
  | nil => rfl
  | append_singleton earlier request ih =>
    rw [List.filterMap_append, lastRequested, List.reverse_append, List.reverse_singleton,
      List.singleton_append, List.find?_cons]
    cases hpattern : HostPattern.ofText? request.1 with
    | none =>
      have hnothing : [request].filterMap registrationOf? = [] := by
        simp [registrationOf?, hpattern]
      rw [hnothing, List.append_nil, ih]
      simp [lastRequested]
    | some own =>
      have hone : [request].filterMap registrationOf? = [(own, request.2)] := by
        simp [registrationOf?, hpattern]
      rw [hone, History.lastFor_snoc, ih]
      by_cases hsame : pattern = own
      · simp [hsame]
      · simp [lastRequested, hsame, Ne.symm hsame]

/-- The patterns of requests are those that their texts stand for. -/
theorem mem_filterMap_registrationOf?_iff {requests : List (String × Credential)}
    {pattern : HostPattern} :
    pattern ∈ (requests.filterMap registrationOf?).map (·.1) ↔
      ∃ request ∈ requests, HostPattern.ofText? request.1 = some pattern := by
  simp only [List.mem_map, List.mem_filterMap, registrationOf?, Option.map_eq_some_iff]
  constructor
  · rintro ⟨_, ⟨request, hrequest, own, hown, rfl⟩, rfl⟩
    exact ⟨request, hrequest, hown⟩
  · rintro ⟨request, hrequest, hpattern⟩
    exact ⟨_, ⟨request, hrequest, pattern, hpattern, rfl⟩, rfl⟩

theorem HostPattern.textCovers_iff {text host : String} :
    textCovers text host = true ↔
      ∃ pattern, ofText? text = some pattern ∧ pattern.covers (HostName.canonical host) = true := by
  rw [textCovers]
  cases ofText? text <;> simp

/-! ## Profiles -/

/-- **Look-up finds what the test of single patterns covers.** For every profile that a run of calls makes,
    on a draft of either kind, and every host in any spelling:

    * a credential is found exactly if the text of some call of the run, as it was given, covers the host;
    * a credential is the one that is found exactly if it is that of the last successful call for a pattern
      that covers the host and is as narrow as any pattern of the run that does. -/
theorem found_iff_text_covers {engine : Engine} {role : Role} {calls : List ClientCall}
    {profile : Profile} (hbuild : ((AnyDraft.ofRun role calls).build engine).run.value = .ok profile)
    (host : String) :
    ((profile.find host).value.isSome = true ↔
      ∃ request ∈ requestsOf calls, HostPattern.textCovers request.1 host = true) ∧
    ∀ credential, (profile.find host).value = some credential ↔
      ∃ pattern,
        lastRequested (requestsOf (taken AnyDraft.call (.empty role) calls)) pattern = some credential ∧
        pattern.covers (HostName.canonical host) = true ∧
        ∀ request ∈ requestsOf calls, ∀ other, HostPattern.ofText? request.1 = some other →
          other.covers (HostName.canonical host) = true → other.narrowness ≤ pattern.narrowness := by
  have hfind : (profile.find host).value = (registeredBy calls).resolve? host := by
    rw [Profile.value_find, (AnyDraft.builtBy_of_build hbuild).identities_eq,
      IdentityTable.find?_ofHistory]
  have hpatterns : ∀ pattern, pattern ∈ (registeredBy calls).map (·.1) ↔
      ∃ request ∈ requestsOf calls, HostPattern.ofText? request.1 = some pattern := by
    intro pattern
    rw [registeredBy_eq, mem_filterMap_registrationOf?_iff]
  have hlast : ∀ pattern, History.lastFor (registeredBy calls) pattern =
      lastRequested (requestsOf (taken AnyDraft.call (.empty role) calls)) pattern := by
    intro pattern
    rw [← registeredBy_taken role, registeredBy_eq, lastFor_filterMap]
  rw [hfind]
  constructor
  · rw [History.isSome_resolve?_iff]
    simp only [hpatterns, HostPattern.textCovers_iff]
    constructor
    · rintro ⟨pattern, ⟨request, hrequest, hpattern⟩, hcovers⟩
      exact ⟨request, hrequest, pattern, hpattern, hcovers⟩
    · rintro ⟨request, hrequest, pattern, hpattern, hcovers⟩
      exact ⟨pattern, ⟨request, hrequest, hpattern⟩, hcovers⟩
  · intro credential
    simp only [History.resolve?_eq_some_iff, hpatterns, hlast]
    refine exists_congr fun pattern => and_congr_right fun _ => and_congr_right fun _ => ?_
    constructor
    · intro hnarrow request hrequest other hother
      exact hnarrow other ⟨request, hrequest, hother⟩
    · rintro hnarrow other ⟨request, hrequest, hother⟩
      exact hnarrow request hrequest other hother

/-- A level and the fallback cover a host in another spelling; the level is narrower, and its last
    credential is found. A text with an empty label is asked for and covers nothing. -/
theorem level_found_before_fallback :
    let engine := Catalogue.engine []
    let own : Credential := ⟨none, [⟨[1]⟩], ⟨"key", some .ecdsa⟩⟩
    let other : Credential := ⟨none, [⟨[2]⟩], ⟨"other", some .rsa⟩⟩
    let calls : List ClientCall := [.common (.set "*.B.com" other), .common (.set "y..b.com" other),
      .common (.setFallback other), .common (.set "*.b.COM." own)]
    ∃ profile, ((AnyDraft.ofRun .client calls).build engine).run.value = .ok profile ∧
      (∃ request ∈ requestsOf calls, HostPattern.textCovers request.1 "Y.b.com." = true) ∧
      (profile.find "Y.b.com.").value.isSome = true ∧
      (profile.find "Y.b.com.").value = some own ∧
      ∃ pattern,
        lastRequested (requestsOf (taken AnyDraft.call (.empty .client) calls)) pattern = some own ∧
        pattern.covers (HostName.canonical "Y.b.com.") = true := by
  intro engine own other calls
  have hbuild := AnyDraft.build_of_trustedBy_eq_nil (show trustedBy calls = [] from rfl) .client engine
  obtain ⟨hsome, hfound⟩ := found_iff_text_covers hbuild "Y.b.com."
  have hown : (((AnyDraft.ofRun .client calls).frozen engine).find "Y.b.com.").value = some own := by
    rw [Profile.value_find, (AnyDraft.builtBy_of_build hbuild).identities_eq]
    decide +kernel
  have hasked : ∃ request ∈ requestsOf calls, HostPattern.textCovers request.1 "Y.b.com." = true :=
    ⟨("*.B.com", other), List.mem_cons_self, by decide⟩
  obtain ⟨pattern, hlast, hcovers, _⟩ := (hfound own).mp hown
  exact ⟨_, hbuild, hasked, hsome.mpr hasked, hown, pattern, hlast, hcovers⟩

end TlsIdentity
