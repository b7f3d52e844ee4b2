import TlsIdentity.CommandLine.Apply
import TlsIdentity.Configuration.Mutation

/-!
# Workbenches

A workbench holds drafts and profiles under names, next to a source of files. A change makes a draft,
calls it, copies it, or makes a profile from it; a change that fails leaves the workbench as it was. A
query asks a profile something, or loads a file, and changes nothing.
-/

namespace TlsIdentity

/-! ## What is on a workbench -/

/-- A draft, of a server or of a client. -/
inductive AnyDraft where
  | server (draft : Draft)
  | client (draft : ClientDraft)

namespace AnyDraft

/-- The draft from which nothing has been asked. -/
def empty : Role → AnyDraft
  | .server => .server .empty
  | .client => .client .empty

/-- The profile that the draft describes. -/
def build (any : AnyDraft) (engine : Engine) : Attempt ConfigError Profile :=
  match any with
  | .server draft => draft.build engine
  | .client draft => draft.build engine

end AnyDraft

/-- Named drafts and profiles, and the files that can be loaded. -/
structure Workbench where
  files : FileSource
  drafts : Entries AnyDraft := []
  profiles : Entries Profile := []

/-- Why a step on a workbench fails. -/
inductive StepError where
  /-- There is no draft of the name. -/
  | noDraft
  /-- There is no profile of the name. -/
  | noProfile
  /-- The draft is not a client's, and a client's is wanted. -/
  | noClientDraft
  /-- A draft or a profile refuses. -/
  | config (error : ConfigError)
  /-- A file cannot be loaded. -/
  | load (error : LoadError)
  /-- Words are no options. -/
  | usage (error : UsageError)
  /-- A text names no peer. -/
  | unnamablePeer
  /-- No connection can be begun. -/
  | unconnectable
  deriving DecidableEq, Repr

namespace Workbench

/-- The draft of a name. -/
def draft (bench : Workbench) (name : String) : Except StepError AnyDraft :=
  match bench.drafts.get? name with
  | some draft => .ok draft
  | none => .error .noDraft

/-- The profile of a name. -/
def profile (bench : Workbench) (name : String) : Except StepError Profile :=
  match bench.profiles.get? name with
  | some profile => .ok profile
  | none => .error .noProfile

/-- The workbench with a draft under a name. -/
def putDraft (bench : Workbench) (name : String) (draft : AnyDraft) : Workbench :=
  { bench with drafts := bench.drafts.put name draft }

/-- The workbench with a profile under a name. -/
def putProfile (bench : Workbench) (name : String) (profile : Profile) : Workbench :=
  { bench with profiles := bench.profiles.put name profile }

end Workbench

/-! ## Changes -/

/-- What can be done to a draft. -/
inductive DraftStep where
  /-- Call it. -/
  | call (call : ClientCall)
  /-- Apply the options that words stand for. -/
  | applyWords (words : List String)

/-- A step that may change a workbench. -/
inductive Change where
  /-- Put an empty draft under a name. -/
  | begin (draft : String) (role : Role)
  /-- Put the draft that words describe under a name. -/
  | beginWith (draft : String) (role : Role) (words : List String)
  /-- Do something to a draft. -/
  | draft (draft : String) (step : DraftStep)
  /-- Copy a draft to another name. -/
  | fork (draft copy : String)
  /-- Make a profile from a draft. -/
  | build (draft profile : String)
  /-- Make the profile that presents one credential. -/
  | present (credential : Credential) (profile : String)
  /-- Copy a profile to another name. -/
  | copy (profile copy : String)

namespace AnyDraft

/-- What a call does; calls about verification are for clients. -/
def call (any : AnyDraft) (call : ClientCall) : Except StepError AnyDraft :=
  match any, call with
  | .server draft, .common call => do
    return .server (← (draft.call call).mapError .config)
  | .server _, .exemption _ => .error .noClientDraft
  | .client draft, call => do
    return .client (← (draft.call call).mapError .config)

/-- The draft with what options name. -/
def applyOptions (any : AnyDraft) (engine : Engine) (files : FileSource) (options : Options) :
    Attempt LoadError AnyDraft :=
  match any with
  | .server draft => do return .server (← options.apply engine files draft)
  | .client draft => do
    return .client { draft with common := ← options.apply engine files draft.common }

/-- The draft that words describe. -/
def ofWords (engine : Engine) (files : FileSource) (role : Role) (words : List String) :
    Attempt StepError AnyDraft :=
  match role with
  | .server => do
    let options ← Attempt.ofExcept ((Options.ofWords words).mapError .usage)
    ExceptT.adapt .load do return .server (← options.apply engine files .empty)
  | .client => do
    let options ← Attempt.ofExcept ((ClientOptions.ofWords words).mapError .usage)
    ExceptT.adapt .load do return .client (← options.clientDraft engine files)

end AnyDraft

namespace Workbench

/-- What a step does to a draft. Words are read before the draft is looked for. -/
def changeDraft (bench : Workbench) (engine : Engine) (name : String) (step : DraftStep) :
    Attempt StepError AnyDraft :=
  match step with
  | .call call => do
    let any ← Attempt.ofExcept (bench.draft name)
    Attempt.ofExcept (any.call call)
  | .applyWords words => do
    let options ← Attempt.ofExcept ((Options.ofWords words).mapError .usage)
    let any ← Attempt.ofExcept (bench.draft name)
    ExceptT.adapt .load (any.applyOptions engine bench.files options)

/-- The workbench after a change, and the profile that was made, if one was. -/
def change (bench : Workbench) (engine : Engine) (change : Change) :
    Attempt StepError (Workbench × Option Profile) :=
  match change with
  | .begin name role => return (bench.putDraft name (.empty role), none)
  | .beginWith name role words => do
    let any ← AnyDraft.ofWords engine bench.files role words
    return (bench.putDraft name any, none)
  | .draft name step => do
    let any ← bench.changeDraft engine name step
    return (bench.putDraft name any, none)
  | .fork name copy => do
    let any ← Attempt.ofExcept (bench.draft name)
    return (bench.putDraft copy any, none)
  | .build name profileName => do
    let any ← Attempt.ofExcept (bench.draft name)
    let profile ← ExceptT.adapt .config (any.build engine)
    return (bench.putProfile profileName profile, some profile)
  | .present credential profileName => do
    let profile ← ExceptT.adapt .config (Profile.presenting engine credential)
    return (bench.putProfile profileName profile, some profile)
  | .copy name copy => do
    let profile ← Attempt.ofExcept (bench.profile name)
    return (bench.putProfile copy profile, none)

end Workbench

/-! ## Queries -/

/-- A handshake between two profiles. -/
structure HandshakePlan where
  /-- The client's profile. -/
  client : String
  /-- The server's profile. -/
  server : String
  /-- The host that the client's configuration is made for. -/
  host : String
  auth : ClientAuth
  /-- The name by which the client reaches the server. -/
  peer : String

/-- A question that changes nothing. -/
inductive Query where
  /-- All that a profile holds. -/
  | show (profile : String)
  /-- The credentials for hosts. -/
  | find (profile : String) (hosts : List String)
  /-- Whether the chains of hosts are believed unseen. -/
  | skips (profile : String) (hosts : List String)
  | clientConfig (profile host : String)
  | serverConfig (profile : String) (auth : ClientAuth)
  /-- What a profile's customizers make of untouched settings when they run so many times. -/
  | customize (profile : String) (times : Nat)
  /-- The verdicts on a server's chain, reached by different names. -/
  | verify (profile : String) (leaf : Certificate) (intermediates : List Certificate)
      (peers : List String)
  /-- The verdict on a signature. -/
  | checkSignature (profile : String) (question : SignatureQuestion)
  | handshake (plan : HandshakePlan)
  /-- The certificates in a file. -/
  | loadCertificates (path : String)
  /-- The credential in two files. -/
  | loadCredential (keyPath certPath : String) (backend : Backend)

/-- What comes of a handshake that was begun. -/
inductive HandshakeResult where
  | completed (connection : Connection)
  | failed (client server : HandshakeFault)

/-- The verdict on a server's chain, or that a text names no server. -/
inductive ChainVerdict where
  | unnamable
  | accepted
  | refused (fault : CertificateFault)
  deriving DecidableEq, Repr

/-- The answer to a query. -/
inductive Answer where
  | profile (profile : Profile)
  | credentials (credentials : List (Option Credential))
  | skips (skips : List Bool)
  | clientConfig (config : ClientConfig)
  | serverConfig (config : ServerConfig)
  | settings (client : ClientSettings) (server : ServerSettings)
  | verdicts (verdicts : List ChainVerdict)
  | signature (verdict : Except CertificateFault Unit)
  | handshake (result : HandshakeResult)
  | certificates (certificates : List Certificate)
  | credential (credential : Credential)

namespace Profile

/-- The verdict on a server's chain, reached by the name that a text stands for. -/
def judge (profile : Profile) (leaf : Certificate) (intermediates : List Certificate) (time : Nat)
    (text : String) : Reported ChainVerdict :=
  match PeerName.ofText? text with
  | none => pure .unnamable
  | some peer => do
    match ← (profile.verifier.verifyChain ⟨leaf, intermediates, peer, [], time⟩).run with
    | .ok () => return .accepted
    | .error fault => return .refused fault

/-- The handshake of a client, by its configuration, with a server. -/
def handshake (server : Profile) (engine : Engine) (time : Nat) (client : ClientConfig)
    (plan : HandshakePlan) : Attempt StepError HandshakeResult := do
  let serverConfig ← Attempt.ofExcept ((server.serverConfig engine plan.auth).mapError .config)
  let some peer := PeerName.ofText? plan.peer | throw .unnamablePeer
  match ← ExceptT.lift (engine.handshake client serverConfig peer time).run with
  | .ok connection => return .completed connection
  | .error (.refused clientFault serverFault) => return .failed clientFault serverFault
  | .error .fragmentSize => throw .unconnectable

end Profile

namespace Workbench

/-- The answer to a query at a time, in seconds since 1970. For a handshake the client's configuration is
    made, and its look-up reported, before the server is looked for. -/
def query (bench : Workbench) (engine : Engine) (time : Nat) (query : Query) :
    Attempt StepError Answer :=
  match query with
  | .show name => do
    return .profile (← Attempt.ofExcept (bench.profile name))
  | .find name hosts => do
    let profile ← Attempt.ofExcept (bench.profile name)
    return .credentials (← ExceptT.lift (hosts.mapM profile.find))
  | .skips name hosts => do
    let profile ← Attempt.ofExcept (bench.profile name)
    return .skips (hosts.map profile.trust.skips)
  | .clientConfig name host => do
    let profile ← Attempt.ofExcept (bench.profile name)
    return .clientConfig (← ExceptT.adapt .config (profile.clientConfig host))
  | .serverConfig name auth => do
    let profile ← Attempt.ofExcept (bench.profile name)
    return .serverConfig
      (← Attempt.ofExcept ((profile.serverConfig engine auth).mapError .config))
  | .customize name times => do
    let profile ← Attempt.ofExcept (bench.profile name)
    return .settings (times.repeat profile.customizers.applyClient {})
      (times.repeat profile.customizers.applyServer {})
  | .verify name leaf intermediates peers => do
    let profile ← Attempt.ofExcept (bench.profile name)
    return .verdicts (← ExceptT.lift (peers.mapM (profile.judge leaf intermediates time)))
  | .checkSignature name question => do
    let profile ← Attempt.ofExcept (bench.profile name)
    return .signature (profile.verifier.verifySignature question)
  | .handshake plan => do
    let client ← Attempt.ofExcept (bench.profile plan.client)
    let clientConfig ← ExceptT.adapt .config (client.clientConfig plan.host)
    let server ← Attempt.ofExcept (bench.profile plan.server)
    return .handshake (← server.handshake engine time clientConfig plan)
  | .loadCertificates path => do
    return .certificates (← ExceptT.adapt .load (bench.files.loadCertificates path))
  | .loadCredential keyPath certPath backend => do
    return .credential
      (← ExceptT.adapt .load (bench.files.loadCredential engine backend keyPath certPath))

end Workbench

/-! ## Steps -/

/-- A step on a workbench. -/
inductive Step where
  | change (change : Change)
  | query (query : Query)

/-- What a step answers. -/
inductive StepAnswer where
  /-- The change was made. -/
  | done
  /-- A profile was made. -/
  | made (profile : Profile)
  /-- The query has an answer. -/
  | answer (answer : Answer)

namespace Workbench

/-- Take a step: the workbench after it, and what it reports and answers. -/
def step (bench : Workbench) (engine : Engine) (time : Nat) (step : Step) :
    Workbench × Reported (Except StepError StepAnswer) :=
  match step with
  | .change change =>
    let outcome := (bench.change engine change).run
    match outcome.value with
    | .ok (next, made) =>
      (next, ⟨outcome.events, .ok ((made.map StepAnswer.made).getD .done)⟩)
    | .error error => (bench, ⟨outcome.events, .error error⟩)
  | .query query =>
    let outcome := (bench.query engine time query).run
    (bench, ⟨outcome.events, outcome.value.map .answer⟩)

/-- Take steps one after the other: the workbench after them, and what each reports and answers. -/
def run (bench : Workbench) (engine : Engine) (time : Nat) :
    List Step → Workbench × List (Reported (Except StepError StepAnswer))
  | [] => (bench, [])
  | first :: rest =>
    let (next, outcome) := bench.step engine time first
    let (last, outcomes) := next.run engine time rest
    (last, outcome :: outcomes)

end Workbench

end TlsIdentity
