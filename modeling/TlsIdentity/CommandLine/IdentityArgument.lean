import TlsIdentity.ConfigError
import TlsIdentity.Text.Split

/-!
# Identities on the command line

The argument `HOST=KEY_PATH,CERT_PATH` names the files of the identity for one host. The host ends at the
first `=` and the key path at the first comma after it, so a host may hold commas, both paths may hold
`=`, and the certificate path may hold commas.
-/

namespace TlsIdentity

/-- A host and the files of its identity, as they were given. -/
structure IdentityArgument where
  host : String
  keyPath : String
  certPath : String
  deriving DecidableEq, Repr

/-- Why a text is no identity argument. -/
inductive IdentityArgumentError where
  /-- There is no `=`. -/
  | missingPaths (text : String)
  /-- There is no comma in what follows the `=`. -/
  | missingCertPath (paths : String)
  /-- One of the paths is empty. -/
  | emptyPath (text : String)
  /-- The host is no pattern. -/
  | host (error : ConfigError)
  deriving DecidableEq, Repr

/-- The error as text. -/
def IdentityArgumentError.message : IdentityArgumentError → String
  | .missingPaths text => "expected HOST=KEY_PATH,CERT_PATH, got " ++ Text.quoted text
  | .missingCertPath paths => "expected KEY_PATH,CERT_PATH after =, got " ++ Text.quoted paths
  | .emptyPath text => "empty path in " ++ Text.quoted text
  | .host error => error.message

namespace IdentityArgument

/-- The argument as text. -/
def toText (argument : IdentityArgument) : String :=
  argument.host ++ "=" ++ argument.keyPath ++ "," ++ argument.certPath

/-- The argument that a text stands for. -/
def ofText (text : String) : Except IdentityArgumentError IdentityArgument :=
  match Text.splitFirst? '=' text.toList with
  | none => .error (.missingPaths text)
  | some (host, paths) =>
    match Text.splitFirst? ',' paths with
    | none => .error (.missingCertPath (String.ofList paths))
    | some (keyPath, certPath) =>
      if keyPath = [] ∨ certPath = [] then .error (.emptyPath text)
      else match HostPattern.ofText (String.ofList host) with
        | .error error => .error (.host error)
        | .ok _ => .ok ⟨String.ofList host, String.ofList keyPath, String.ofList certPath⟩

end IdentityArgument

end TlsIdentity
