import TlsIdentity.CommandLine.IdentityArgument

/-!
# Options

Words become options from left to right. A long option takes its value after `=` or from the next word,
which must not begin with a dash unless it is a single one. A value in a word of its own is looked at
when the next option comes or the words end, so a word that is no option is found first. There are no
positional arguments: after `--` nothing may follow.
-/

namespace TlsIdentity

/-- Which program the options are for. -/
inductive Role where
  | server
  | client
  deriving DecidableEq, Repr

/-- The options that say what to load. -/
structure Options where
  /-- The file with the key of the fallback identity. -/
  keyPath : Option String := none
  /-- The file with the certificates of the fallback identity. -/
  certPath : Option String := none
  /-- The identities of single hosts and patterns, in order. -/
  identities : List IdentityArgument := []
  /-- The file with trust anchors. -/
  anchorsPath : Option String := none
  deriving DecidableEq, Repr

/-- The options of a client. -/
structure ClientOptions where
  common : Options := {}
  /-- Whether no server is to be verified. -/
  exemptsAll : Bool := false
  /-- The hosts that are not to be verified, in order. -/
  exemptHosts : List String := []
  deriving DecidableEq, Repr

/-- Why words are no options. -/
inductive UsageError where
  /-- Help is asked for. -/
  | helpWanted
  /-- A word is no option, or is an option of another program. -/
  | unknownArgument
  /-- An option lacks its value, or the value is an empty path. -/
  | missingValue
  /-- A value is no identity argument. -/
  | malformedValue
  /-- An option that may come once comes again. -/
  | repeatedOption
  /-- An option that takes no value has one. -/
  | unwantedValue
  deriving DecidableEq, Repr

/-! ## Names of options -/

/-- A long option that takes a value. -/
inductive ValueFlag where
  | keyPath
  | certPath
  | identity
  | anchorsPath
  | exemptHosts
  deriving DecidableEq, Repr

/-- A long option that takes no value. -/
inductive BareFlag where
  | exemptAll
  | help
  deriving DecidableEq, Repr

/-- A long option. -/
inductive Flag where
  | valued (flag : ValueFlag)
  | bare (flag : BareFlag)
  deriving DecidableEq, Repr

namespace Flag

/-- The option of a name, without its dashes. Names are not abbreviated. -/
def ofName? (role : Role) (name : String) : Option Flag :=
  match name with
  | "tls-key-path" => some (.valued .keyPath)
  | "tls-cert-path" => some (.valued .certPath)
  | "tls-sni-identity" => some (.valued .identity)
  | "tls-cacert" => some (.valued .anchorsPath)
  | "tls-no-verify" => if role = .client then some (.bare .exemptAll) else none
  | "tls-no-verify-hosts" => if role = .client then some (.valued .exemptHosts) else none
  | "help" => some (.bare .help)
  | _ => none

end Flag

/-! ## Words -/

/-- The forms of a word. -/
inductive Word where
  /-- A long option, with what follows its first `=`. -/
  | long (name : String) (value : Option String)
  /-- Short options, by their letters. -/
  | short (letters : List Char)
  /-- Anything else. -/
  | plain (text : String)
  deriving DecidableEq, Repr

namespace Word

/-- The form of a word. -/
def ofText (text : String) : Word :=
  match text.toList with
  | '-' :: '-' :: rest =>
    match Text.splitFirst? '=' rest with
    | some (name, value) => .long (String.ofList name) (some (String.ofList value))
    | none => .long (String.ofList rest) none
  | '-' :: letter :: letters => .short (letter :: letters)
  | _ => .plain text

end Word

/-! ## Values -/

namespace ClientOptions

/-- A path that may be given once. -/
def takePath (old : Option String) (path : String) : Except UsageError (Option String) :=
  if old.isSome then .error .repeatedOption
  else if path = "" then .error .missingValue
  else .ok (some path)

/-- The options with the value of a long option. -/
def takeValue (options : ClientOptions) (flag : ValueFlag) (value : String) :
    Except UsageError ClientOptions :=
  match flag with
  | .keyPath => do
    let keyPath ← takePath options.common.keyPath value
    return { options with common := { options.common with keyPath := keyPath } }
  | .certPath => do
    let certPath ← takePath options.common.certPath value
    return { options with common := { options.common with certPath := certPath } }
  | .anchorsPath => do
    let anchorsPath ← takePath options.common.anchorsPath value
    return { options with common := { options.common with anchorsPath := anchorsPath } }
  | .identity =>
    match IdentityArgument.ofText value with
    | .ok argument =>
      .ok { options with
        common := { options.common with identities := options.common.identities ++ [argument] } }
    | .error _ => .error .malformedValue
  | .exemptHosts =>
    .ok { options with
      exemptHosts := options.exemptHosts ++ (value.toList.splitOn ',').map String.ofList }

/-- The options with a long option that has no value. -/
def takeBare (options : ClientOptions) (flag : BareFlag) : Except UsageError ClientOptions :=
  match flag with
  | .exemptAll =>
    if options.exemptsAll then .error .repeatedOption
    else .ok { options with exemptsAll := true }
  | .help => .error .helpWanted

end ClientOptions

/-! ## Reading words -/

/-- Where the reader of words stands. -/
inductive Awaiting where
  /-- Nothing is open. -/
  | nothing
  /-- An option still lacks its value. -/
  | value (flag : ValueFlag)
  /-- An option has a value that is still to be looked at. -/
  | check (flag : ValueFlag) (value : String)
  deriving DecidableEq, Repr

/-- The options so far, and what is open. -/
structure OptionReader where
  options : ClientOptions := {}
  awaiting : Awaiting := .nothing
  deriving DecidableEq, Repr

namespace OptionReader

/-- The options after what is open has been closed. -/
def close (reader : OptionReader) : Except UsageError ClientOptions :=
  match reader.awaiting with
  | .nothing => .ok reader.options
  | .value _ => .error .missingValue
  | .check flag value => reader.options.takeValue flag value

/-- Read a long option. -/
def readFlag (reader : OptionReader) (flag : Flag) (value : Option String) :
    Except UsageError OptionReader :=
  match flag, value with
  | .valued flag, some value => do
    return { options := ← (← reader.close).takeValue flag value }
  | .valued flag, none => do
    return { options := ← reader.close, awaiting := .value flag }
  | .bare _, some _ => .error .unwantedValue
  | .bare flag, none => do
    return { options := ← (← reader.close).takeBare flag }

/-- Read one word. -/
def readWord (role : Role) (reader : OptionReader) (word : Word) : Except UsageError OptionReader :=
  match word with
  | .long name value =>
    match Flag.ofName? role name with
    | some flag => reader.readFlag flag value
    | none => .error .unknownArgument
  | .short letters =>
    if letters.head? = some 'h' then reader.readFlag (.bare .help) none
    else .error .unknownArgument
  | .plain text =>
    match reader.awaiting with
    | .value flag => .ok { reader with awaiting := .check flag text }
    | _ => .error .unknownArgument

/-- Read the words that follow. -/
def readWords (role : Role) (reader : OptionReader) : List String → Except UsageError ClientOptions
  | [] => reader.close
  | text :: rest =>
    if text = "--" then if rest = [] then reader.close else .error .unknownArgument
    else do readWords role (← reader.readWord role (Word.ofText text)) rest

end OptionReader

/-- The options of a client that words stand for. -/
def ClientOptions.ofWords (words : List String) : Except UsageError ClientOptions :=
  OptionReader.readWords .client {} words

/-- The options of a server that words stand for. -/
def Options.ofWords (words : List String) : Except UsageError Options := do
  return (← OptionReader.readWords .server {} words).common

end TlsIdentity
