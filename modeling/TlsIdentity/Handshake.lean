import TlsIdentity.Configuration.Sides
import TlsIdentity.Engine.Connection
import TlsIdentity.Text.Utf8

/-!
# Handshakes

A client's and a server's configuration meet. The first thing that stands in the way ends the handshake,
for each side with a fault of its own. A side proves by signing that it holds the key of what it presents,
and the other side checks the signature. A client whose key signs by none of the schemes that the server takes
goes on as if it had no credential; a server whose key does not gives up, which in TLS 1.2 it does without
telling the client.
-/

namespace TlsIdentity

/-- What comes of it when the server's key cannot sign. -/
def ConnectError.cannotSign : TlsVersion → ConnectError
  | .v12 => .refused .unanswered (.cannotSign .v12)
  | .v13 => .refused (.alerted .handshakeFailure) (.cannotSign .v13)

/-- What a side signs. Both sides have the same messages behind them, so these are left out. -/
def Side.signedBytes : Side → List UInt8
  | .client => Text.encode "client CertificateVerify"
  | .server => Text.encode "server CertificateVerify"

namespace Connection

/-- The newest version that both backends speak. -/
def chooseVersion (client server : Backend) : Option TlsVersion :=
  [.v13, .v12].find? fun version => client.speaks version && server.speaks version

/-- The name that the client's configuration lets it indicate. -/
def indicatedName (client : ClientConfig) (peer : PeerName) : Option String :=
  if client.settings.indicatesName then peer.indicated? else none

/-- The credential that the server presents to a client that indicated a name. -/
def presentServer (server : ServerConfig) (indicated : Option String) :
    Attempt ConnectError Credential := do
  match ← ExceptT.lift (server.identityFor indicated) with
  | some credential => return credential
  | none => throw (.refused (.alerted .accessDenied) .noIdentity)

/-- What is asked about the signature that a side makes with `key` for the certificate that it presents. -/
def signatureQuestion (version : TlsVersion) (side : Side) (leaf : Certificate) (key : SigningKey) :
    SignatureQuestion where
  version := version
  message := side.signedBytes
  certificate := leaf
  signature := ⟨key, side.signedBytes⟩

/-- The client's judgement of what the server presents: of the chain first, and then of the signature. -/
def judgeServer (client : ClientConfig) (version : TlsVersion) (credential : Credential) (peer : PeerName)
    (time : Nat) : Attempt ConnectError Unit :=
  let refuse (fault : CertificateFault) : ConnectError :=
    .refused (.certificate fault) (.alerted fault.alert)
  match credential.chain with
  | [] => throw (refuse .badEncoding)
  | leaf :: intermediates => ExceptT.adapt refuse do
    client.verifier.verifyChain ⟨leaf, intermediates, peer, [], time⟩
    Attempt.ofExcept (client.verifier.verifySignature (signatureQuestion version .server leaf credential.key))

/-- The server's judgement of what a client presents. -/
def judgeClient (verifier : ClientVerifier) (version : TlsVersion) (credential : Credential) (time : Nat) :
    Except CertificateFault Unit :=
  match credential.chain with
  | [] => .error .badEncoding
  | leaf :: _ => do
    verifier.verifyChain credential.chain time
    verifier.verifySignature (signatureQuestion version .client leaf credential.key)

variable (canSign : SigningKey → List SignatureScheme → Bool)

/-- The chain that the client presents, if it is asked for one and has one with a key that signs by a scheme
    that the server takes, judged by the server. -/
def presentClient (client : ClientConfig) (server : ServerConfig) (version : TlsVersion) (time : Nat) :
    Except ConnectError (Option (List Certificate)) :=
  match server.clientVerifier with
  | none => .ok none
  | some verifier =>
    match client.identity.filter fun credential => canSign credential.key verifier.schemes with
    | none =>
      if verifier.required then .error (.refused (.alerted .certificateRequired) .noClientCertificate)
      else .ok none
    | some credential =>
      match judgeClient verifier version credential time with
      | .ok () => .ok (some credential.chain)
      | .error fault => .error (.refused (.alerted fault.alert) (.certificate fault))

/-- The handshake of a client that reaches a server by a name. Which keys sign by which schemes is for the
    engine to say. -/
def establish (client : ClientConfig) (server : ServerConfig) (peer : PeerName) (time : Nat) :
    Attempt ConnectError Connection := do
  if !client.settings.hasValidFragment || !server.settings.hasValidFragment then
    throw .fragmentSize
  let some version := chooseVersion client.backend server.backend
    | throw (.refused (.alerted .protocolVersion) .noCommonVersion)
  let indicated := indicatedName client peer
  let serverCredential ← presentServer server indicated
  let .ok protocol :=
      Negotiation.chooseProtocol server.settings.protocols client.settings.protocols
    | throw (.refused (.alerted .noApplicationProtocol) .noCommonProtocol)
  if !canSign serverCredential.key client.verifier.schemes then
    throw (.cannotSign version)
  judgeServer client version serverCredential peer time
  let clientChain ← Attempt.ofExcept (presentClient canSign client server version time)
  return {
    version := version
    serverChain := serverCredential.chain
    clientChain := clientChain
    indicated := indicated
    protocol := protocol }

end Connection

end TlsIdentity
