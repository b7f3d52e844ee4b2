import TlsIdentity.Catalogue
import TlsIdentity.Proofs.Configurations
import TlsIdentity.Proofs.LoadedOptions

/-!
# The anchors of a profile

Certificates become trust anchors by calls on a draft and by options that are applied to it, and the draft keeps
them all in the order in which they came (`trusted_of_act` for one action, `trusted_ofActions` for all). What is
kept is looked at when a profile is made. The first certificate that the engine refuses is the error; a profile
that is made has an anchor, since no certificates at all stand for the web's authorities. So nothing is left for
which a verifier of servers or of clients could not be made.
-/

namespace TlsIdentity

/-! ## Refusals -/

namespace Engine

/-- Why the engine does not take a certificate for an anchor, if it does not. -/
def refusal? (engine : Engine) (certificate : Certificate) : Option EngineError :=
  errorOf? (engine.checkAnchor certificate)

variable {engine : Engine}

theorem refusal?_eq_none_iff {certificate : Certificate} :
    engine.refusal? certificate = none ↔ engine.checkAnchor certificate = .ok () := by
  rw [refusal?, errorOf?_eq_none_iff]
  exact ⟨fun ⟨_, h⟩ => h, fun h => ⟨(), h⟩⟩

/-- **The anchors fail as the first certificate that is refused.** -/
theorem errorOf?_anchors (engine : Engine) (trusted : List Certificate) :
    errorOf? (engine.anchors trusted) = trusted.findSome? engine.refusal? := by
  have hone : ∀ certificate, errorOf? (do
      engine.checkAnchor certificate
      return TrustAnchor.certificate certificate) = engine.refusal? certificate := by
    intro certificate
    rw [refusal?]
    cases engine.checkAnchor certificate <;> rfl
  unfold anchors
  by_cases hnil : trusted = []
  · rw [if_pos hnil, hnil]
    rfl
  · rw [if_neg hnil, errorOf?_mapM]
    exact congrArg (trusted.findSome? ·) (funext hone)

end Engine

/-! ## What a draft is to trust -/

/-- The certificates that an action makes trust anchors when it succeeds. -/
def DraftAction.trusts : DraftAction → List Certificate
  | .call (.common own) => own.trusts
  | .call (.exemption _) => []
  | .apply files options => (options.loadAnchors files).toOption.getD []

namespace AnyDraft

variable {engine : Engine} {any next : AnyDraft} {action : DraftAction}

/-- What an action makes anchors comes after what was there. -/
theorem trusted_of_act (h : any.act engine action = .ok next) :
    next.common.trusted = any.common.trusted ++ action.trusts := by
  obtain ⟨call, rfl, _, hnext⟩ | ⟨call, rfl, hnext⟩ | ⟨files, options, loaded, rfl, hloads, hnext⟩ :=
    common_of_act h
  · rw [hnext]
    rfl
  · rw [hnext]
    exact (List.append_nil _).symm
  · rw [hnext, DraftAction.trusts, hloads.certificates]
    rfl

/-- **The actions that succeed make anchors one after the other.** -/
theorem trusted_runFrom (any : AnyDraft) (actions : List DraftAction) :
    (runFrom (act engine) any actions).common.trusted =
      any.common.trusted ++ (taken (act engine) any actions).flatMap DraftAction.trusts := by
  induction actions generalizing any with
  | nil => exact (List.append_nil _).symm
  | cons action rest ih =>
    cases hact : any.act engine action with
    | ok next =>
      rw [runFrom_cons_ok hact, taken_cons_ok hact, ih, trusted_of_act hact, List.flatMap_cons,
        List.append_assoc]
    | error error => rw [runFrom_cons_error hact, taken_cons_error hact, ih]

/-- The certificates that actions on an empty draft make trust anchors, in order. -/
def addedBy (engine : Engine) (role : Role) (actions : List DraftAction) : List Certificate :=
  (taken (act engine) (.empty role) actions).flatMap DraftAction.trusts

theorem trusted_ofActions (engine : Engine) (role : Role) (actions : List DraftAction) :
    (ofActions engine role actions).common.trusted = addedBy engine role actions := by
  have hempty : (AnyDraft.empty role).common.trusted = [] := by
    cases role <;> rfl
  rw [ofActions, trusted_runFrom, hempty, List.nil_append, addedBy]

/-- A refused certificate is the error, and nothing is reported. -/
theorem build_of_refused {cause : EngineError} (h : any.common.trusted.findSome? engine.refusal? = some cause) :
    (any.build engine).run = ⟨[], .error (.engine cause)⟩ := by
  rw [← Engine.errorOf?_anchors, errorOf?_eq_some_iff] at h
  rw [build_eq_freeze, Draft.run_freeze, h]

theorem build_of_accepted
    (h : ∀ certificate ∈ any.common.trusted, engine.checkAnchor certificate = .ok ()) :
    (any.build engine).run.value = .ok (any.frozen engine) := by
  rw [build_eq_freeze]
  exact Draft.freeze_eq_ok_iff.mpr ⟨h, rfl⟩

end AnyDraft

/-- **A profile fails for the first certificate that is refused, and always has an anchor.** For every draft, of a
    server or a client, to which calls were made and options applied in any order, with whatever files:

    * a profile cannot be made exactly if the engine refuses one of the certificates that were added; the error is
      then its refusal of the first that it refuses, in the order in which they were added, and nothing is
      reported;
    * otherwise there is a profile, with one anchor for each added certificate in this order, and the web's
      authorities if none was ever added;
    * in no case is it a verifier that cannot be made, whichever servers are exempt, and a profile that was made
      gives a server's configuration for every demand on clients, as long as its backend is usable. -/
theorem refused_only_for_anchors (engine : Engine) (role : Role) (actions : List DraftAction) :
    let outcome := ((AnyDraft.ofActions engine role actions).build engine).run
    let added := AnyDraft.addedBy engine role actions
    ((∃ cause, outcome.value = .error (.engine cause)) ↔
      ∃ certificate ∈ added, ∃ cause, engine.checkAnchor certificate = .error cause) ∧
    (∀ error, outcome.value = .error error → outcome.events = [] ∧
      ∃ cause, error = .engine cause ∧ added.findSome? engine.refusal? = some cause) ∧
    ((∀ certificate ∈ added, engine.checkAnchor certificate = .ok ()) →
      ∃ profile, outcome.value = .ok profile ∧
        profile.anchors = if added = [] then [.webAuthorities] else added.map .certificate) ∧
    (∀ cause, outcome.value ≠ .error (.verifier cause)) ∧
    ∀ profile, outcome.value = .ok profile → profile.anchors ≠ [] ∧ ∀ auth,
      (profile.backend.isUsable = true → ∃ config, profile.serverConfig engine auth = .ok config) ∧
      ∀ cause, profile.serverConfig engine auth ≠ .error (.verifier cause) := by
  intro outcome added
  -- what was added is what the draft is to trust, and the profile is made of the draft alone
  have htrusted : (AnyDraft.ofActions engine role actions).common.trusted = added :=
    AnyDraft.trusted_ofActions engine role actions
  clear_value added
  subst htrusted
  cases hfirst : (AnyDraft.ofActions engine role actions).common.trusted.findSome? engine.refusal? with
  | some cause =>
    obtain ⟨certificate, hmem, hrefusal⟩ := List.exists_of_findSome?_eq_some hfirst
    have hbad : engine.checkAnchor certificate = .error cause := errorOf?_eq_some_iff.mp hrefusal
    have houtcome : outcome = ⟨[], .error (.engine cause)⟩ := AnyDraft.build_of_refused hfirst
    rw [houtcome]
    refine ⟨⟨fun _ => ⟨certificate, hmem, cause, hbad⟩, fun _ => ⟨cause, rfl⟩⟩, ?_, ?_, nofun, nofun⟩
    · rintro _ ⟨⟩
      exact ⟨rfl, cause, rfl, rfl⟩
    · intro hall
      rw [hall certificate hmem] at hbad
      cases hbad
  | none =>
    have hall : ∀ certificate ∈ (AnyDraft.ofActions engine role actions).common.trusted,
        engine.checkAnchor certificate = .ok () := fun certificate hmem =>
      Engine.refusal?_eq_none_iff.mp (List.findSome?_eq_none_iff.mp hfirst certificate hmem)
    have houtcome : outcome.value = .ok ((AnyDraft.ofActions engine role actions).frozen engine) :=
      AnyDraft.build_of_accepted hall
    rw [houtcome]
    refine ⟨⟨nofun, ?_⟩, nofun, fun _ => ⟨_, rfl, rfl⟩, nofun, ?_⟩
    · rintro ⟨certificate, hmem, cause, hbad⟩
      rw [hall certificate hmem] at hbad
      cases hbad
    · rintro profile ⟨⟩
      have hne : ((AnyDraft.ofActions engine role actions).frozen engine).anchors ≠ [] := anchorsOf_ne_nil _
      refine ⟨hne, fun auth => ?_⟩
      rw [Profile.serverConfig_of_ne_nil hne]
      cases ((AnyDraft.ofActions engine role actions).frozen engine).backend.isUsable <;> simp

/-- A client's draft exempts every server; it is given no certificates by a call and none by options that name an
    empty file. The profile has the web's authorities and no verifier is missing. When certificates are added of
    which the second and the third are refused, each for a cause of its own, the second says how it fails. -/
theorem second_of_three_refused :
    let engine : Engine := { Catalogue.engine [] with
      checkAnchor := fun certificate =>
        if certificate.der = [1] then .ok ()
        else if certificate.der = [2] then .error (.certificate .expired)
        else .error (.certificate .badEncoding) }
    let exempt : List DraftAction := [.call (.exemption .exemptAll), .call (.common (.trust [])),
      .apply (Directory.source [("none", [])]) { anchorsPath := some "none" }]
    let certificates : List DraftAction :=
      [.call (.common (.trust [⟨[1]⟩, ⟨[2]⟩])), .call (.common (.trust [⟨[3]⟩]))]
    (∃ profile, ((AnyDraft.ofActions engine .client exempt).build engine).run.value = .ok profile ∧
      profile.anchors = [.webAuthorities] ∧
      ∀ auth cause, profile.serverConfig engine auth ≠ .error (.verifier cause)) ∧
    ((AnyDraft.ofActions engine .client (exempt ++ certificates)).build engine).run =
      ⟨[], .error (.engine (.certificate .expired))⟩ := by
  intro engine exempt certificates
  constructor
  · obtain ⟨_, _, hmade, _, hnever⟩ := refused_only_for_anchors engine .client exempt
    have hadded : AnyDraft.addedBy engine .client exempt = [] := rfl
    rw [hadded] at hmade
    obtain ⟨profile, hprofile, hanchors⟩ := hmade nofun
    exact ⟨profile, hprofile, hanchors, fun auth => ((hnever profile hprofile).2 auth).2⟩
  · obtain ⟨hrefused, hfirst, _⟩ := refused_only_for_anchors engine .client (exempt ++ certificates)
    have hadded : AnyDraft.addedBy engine .client (exempt ++ certificates) = [⟨[1]⟩, ⟨[2]⟩, ⟨[3]⟩] := rfl
    rw [hadded] at hrefused hfirst
    obtain ⟨cause, hcause⟩ := hrefused.mpr ⟨⟨[2]⟩, by decide, _, rfl⟩
    obtain ⟨hsilent, _, ⟨⟩, hcause'⟩ := hfirst _ hcause
    cases hcause'
    exact Reported.ext hsilent hcause

end TlsIdentity
