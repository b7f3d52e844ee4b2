import TlsIdentity.Profile

/-!
# Drafts

A draft collects what a profile is to hold. Calls come in any order; one that fails leaves the draft as
it was, and a profile made from a draft is not touched by later calls. A client's draft can also turn
verification off, for all servers or for chosen ones but not for both.
-/

namespace TlsIdentity

/-! ## Drafts of any profile -/

/-- What a profile is to hold. -/
structure Draft where
  identities : IdentityTable Credential := .empty
  customizers : CustomizerChain := []
  /-- The certificates that are to be trust anchors. -/
  trusted : List Certificate := []
  /-- The backend to use in place of the default one. -/
  chosenBackend : Option Backend := none
  allowsUnsafeSuites : Bool := false
  meterLabel : Option String := none

/-- A call on a draft of any profile. -/
inductive DraftCall where
  /-- Present a credential to peers that a pattern covers. -/
  | set (host : String) (credential : Credential)
  /-- Present a credential to peers that nothing else covers. -/
  | setFallback (credential : Credential)
  /-- Add trust anchors. -/
  | trust (certificates : List Certificate)
  /-- Choose the backend. -/
  | useBackend (backend : Backend)
  /-- Add a customizer, which runs after those already there. -/
  | customize (customizer : Customizer)
  /-- Set the label for measurements. -/
  | setMeterLabel (label : String)
  /-- Set whether unsafe cipher suites are allowed. -/
  | allowUnsafeSuites (allowed : Bool)

namespace Draft

/-- The draft from which nothing has been asked. -/
def empty : Draft := {}

/-- The backend that the profile will use. -/
def backend (draft : Draft) (engine : Engine) : Backend :=
  draft.chosenBackend.getD engine.defaultBackend

/-- Register a credential for the pattern that `host` stands for. -/
def set (draft : Draft) (host : String) (credential : Credential) : Except ConfigError Draft := do
  let pattern ← HostPattern.ofText host
  return { draft with identities := draft.identities.insert pattern credential }

/-- Register a credential for peers that nothing else covers. -/
def setFallback (draft : Draft) (credential : Credential) : Draft :=
  { draft with identities := draft.identities.insert .any credential }

/-- Add trust anchors after those already there. -/
def trust (draft : Draft) (certificates : List Certificate) : Draft :=
  { draft with trusted := draft.trusted ++ certificates }

/-- What a call does. -/
def call (draft : Draft) : DraftCall → Except ConfigError Draft
  | .set host credential => draft.set host credential
  | .setFallback credential => .ok (draft.setFallback credential)
  | .trust certificates => .ok (draft.trust certificates)
  | .useBackend backend => .ok { draft with chosenBackend := some backend }
  | .customize customizer =>
    .ok { draft with customizers := CustomizerChain.push draft.customizers customizer }
  | .setMeterLabel label => .ok { draft with meterLabel := some label }
  | .allowUnsafeSuites allowed => .ok { draft with allowsUnsafeSuites := allowed }

/-- The profile that the draft describes, under a trust policy. A trust anchor that the engine refuses is
    an error before anything is reported. -/
def freeze (draft : Draft) (engine : Engine) (trust : TrustPolicy) : Attempt ConfigError Profile := do
  let anchors ← Attempt.ofExcept ((engine.anchors draft.trusted).mapError .engine)
  let verifier ← trust.verifier engine (draft.backend engine) anchors
  if draft.allowsUnsafeSuites then Attempt.report .unsafeSuitesAllowed
  if draft.identities.isEmpty then Attempt.report .noIdentity
  return {
    identities := draft.identities
    trust := trust
    anchors := anchors
    verifier := verifier
    customizers := draft.customizers
    backend := draft.backend engine
    allowsUnsafeSuites := draft.allowsUnsafeSuites
    meterLabel := draft.meterLabel }

/-- The profile that the draft describes. It verifies every peer. -/
def build (draft : Draft) (engine : Engine) : Attempt ConfigError Profile :=
  draft.freeze engine .verifyAll

end Draft

/-- The profile that presents one credential to every peer. -/
def Profile.presenting (engine : Engine) (credential : Credential) : Attempt ConfigError Profile :=
  (Draft.empty.setFallback credential).build engine

/-! ## Drafts of clients -/

/-- Which servers a client's draft leaves unverified so far. -/
inductive Exemption where
  | nobody
  | everybody
  | chosen (hosts : HostSet)
  deriving DecidableEq

namespace Exemption

/-- Leave every server unverified. -/
def exemptAll : Exemption → Except ConfigError Exemption
  | .nobody => .ok .everybody
  | .everybody => .ok .everybody
  | .chosen _ => .error .verificationConflict

/-- The canonical name of a text that stands for a single host. -/
def singleHost (text : String) : Except ConfigError String := do
  match ← HostPattern.ofText text with
  | .exact name => return name
  | _ => throw (.invalidHost text)

/-- Leave chosen hosts unverified besides those already chosen. Choosing none changes nothing. -/
def exemptHosts (exemption : Exemption) (hosts : List String) : Except ConfigError Exemption :=
  match exemption with
  | .nobody => do
    let names ← hosts.mapM singleHost
    return if names = [] then .nobody else .chosen (HostSet.ofList names)
  | .everybody => .error .verificationConflict
  | .chosen names => do
    return .chosen (names.insertMany (← hosts.mapM singleHost))

/-- The trust policy that the exemption comes to. -/
def policy : Exemption → TrustPolicy
  | .nobody => .verifyAll
  | .everybody => .skipAll
  | .chosen hosts => .skipHosts hosts

end Exemption

/-- What a client's profile is to hold. -/
structure ClientDraft where
  /-- What any profile is to hold. -/
  common : Draft := {}
  exemption : Exemption := .nobody

/-- A call on a client's draft about verification. -/
inductive ExemptionCall where
  /-- Verify no server. -/
  | exemptAll
  /-- Do not verify these servers. -/
  | exemptHosts (hosts : List String)
  deriving DecidableEq

/-- A call on a client's draft. -/
inductive ClientCall where
  /-- A call that every draft takes. -/
  | common (call : DraftCall)
  /-- A call about verification. -/
  | exemption (call : ExemptionCall)

namespace Exemption

/-- What a call does. -/
def call (exemption : Exemption) : ExemptionCall → Except ConfigError Exemption
  | .exemptAll => exemption.exemptAll
  | .exemptHosts hosts => exemption.exemptHosts hosts

end Exemption

namespace ClientDraft

/-- The client's draft from which nothing has been asked. -/
def empty : ClientDraft := {}

/-- What a call does. -/
def call (client : ClientDraft) : ClientCall → Except ConfigError ClientDraft
  | .common call => do return { client with common := ← client.common.call call }
  | .exemption call => do return { client with exemption := ← client.exemption.call call }

/-- The profile that the draft describes. -/
def build (client : ClientDraft) (engine : Engine) : Attempt ConfigError Profile :=
  client.common.freeze engine client.exemption.policy

end ClientDraft

/-! ## Runs of calls -/

/-- The state after a call that leaves it as it was when it fails. -/
def keepOnError {ε σ : Type} (state : σ) (outcome : Except ε σ) : σ :=
  match outcome with
  | .ok next => next
  | .error _ => state

/-- The draft after a run of calls. -/
def Draft.run (draft : Draft) (calls : List DraftCall) : Draft :=
  calls.foldl (fun draft call => keepOnError draft (draft.call call)) draft

/-- The client's draft after a run of calls. -/
def ClientDraft.run (client : ClientDraft) (calls : List ClientCall) : ClientDraft :=
  calls.foldl (fun client call => keepOnError client (client.call call)) client

end TlsIdentity
