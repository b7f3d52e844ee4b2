import TlsIdentity.CommandLine.Options
import TlsIdentity.Draft
import TlsIdentity.Files.Load

/-!
# Applying options

Options are applied to a draft in a fixed order, and the first failure ends it: the fallback identity,
the identities of hosts in their order, the trust anchors, and for clients what is not to be verified.
-/

namespace TlsIdentity

namespace Options

/-- The draft with the fallback identity that the options name. Its two files are given together. -/
def applyFallback (options : Options) (engine : Engine) (files : FileSource) (draft : Draft) :
    Attempt LoadError Draft :=
  match options.keyPath, options.certPath with
  | some keyPath, some certPath => do
    return draft.setFallback (← files.loadCredential engine (draft.backend engine) keyPath certPath)
  | none, none => pure draft
  | _, _ => throw .incompleteKeyPair

/-- The draft with the identity that an argument names. -/
def applyIdentity (engine : Engine) (files : FileSource) (draft : Draft)
    (argument : IdentityArgument) : Attempt LoadError Draft := do
  let credential ←
    files.loadCredential engine (draft.backend engine) argument.keyPath argument.certPath
  Attempt.ofExcept ((draft.set argument.host credential).mapError .config)

/-- The draft with the trust anchors that the options name. -/
def applyAnchors (options : Options) (files : FileSource) (draft : Draft) :
    Attempt LoadError Draft :=
  match options.anchorsPath with
  | some path => do return draft.trust (← files.loadCertificates path)
  | none => pure draft

/-- The draft with everything that the options name. All keys are loaded by the draft's backend. -/
def apply (options : Options) (engine : Engine) (files : FileSource) (draft : Draft) :
    Attempt LoadError Draft := do
  let draft ← options.applyFallback engine files draft
  let draft ← options.identities.foldlM (applyIdentity engine files) draft
  options.applyAnchors files draft

end Options

namespace ClientOptions

/-- The client's draft that the options describe. -/
def clientDraft (options : ClientOptions) (engine : Engine) (files : FileSource) :
    Attempt LoadError ClientDraft := do
  let draft ← options.common.apply engine files .empty
  let exemption ← Attempt.ofExcept <| Except.mapError LoadError.config do
    let exemption ← if options.exemptsAll then Exemption.nobody.exemptAll else .ok .nobody
    if options.exemptHosts = [] then .ok exemption else exemption.exemptHosts options.exemptHosts
  return { common := draft, exemption := exemption }

end ClientOptions

end TlsIdentity
