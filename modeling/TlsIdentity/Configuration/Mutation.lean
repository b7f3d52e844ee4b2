import TlsIdentity.Configuration.Customizer

/-!
# Mutations

Single steps from which customizers are put together. A shared mutation does the same to both sides; one
for clients leaves servers alone, and one for servers leaves clients alone.
-/

namespace TlsIdentity

/-- A step on the settings that both sides have. -/
inductive SharedMutation where
  /-- Replace the protocols. -/
  | setProtocols (protocols : List String)
  /-- Add a protocol at the end. -/
  | pushProtocol (protocol : String)
  /-- Remove the last protocol, if there is one. -/
  | popProtocol
  /-- Reverse the protocols. -/
  | reverseProtocols
  /-- Add a copy of all protocols at the end. -/
  | repeatProtocols
  /-- Set the fragment size. -/
  | setFragment (size : Option Nat)
  /-- Set the fragment size to a number plus the number of protocols. -/
  | setFragmentByProtocols (base : Nat)
  /-- Double the fragment size, if one is set. -/
  | doubleFragment
  deriving DecidableEq, Repr

/-- A step on the settings of a client. -/
inductive ClientMutation where
  /-- Set whether the server is told its name. -/
  | setIndicatesName (indicates : Bool)
  /-- Add a protocol at the end. -/
  | pushProtocol (protocol : String)
  deriving DecidableEq, Repr

/-- A step on the settings of a server. -/
inductive ServerMutation where
  /-- Set whether the server's order of cipher suites wins. -/
  | setIgnoresClientOrder (ignores : Bool)
  /-- Add a protocol at the end. -/
  | pushProtocol (protocol : String)
  deriving DecidableEq, Repr

/-- One step of a customizer. -/
inductive Mutation where
  /-- A step for both sides. -/
  | shared (mutation : SharedMutation)
  /-- A step for clients alone. -/
  | client (mutation : ClientMutation)
  /-- A step for servers alone. -/
  | server (mutation : ServerMutation)
  deriving DecidableEq, Repr

/-! ## Effects -/

namespace SharedMutation

/-- What the step does to the settings of a side. -/
def apply (mutation : SharedMutation) (side : Side) (settings : side.Settings) : side.Settings :=
  match mutation with
  | .setProtocols protocols => side.protocols.write protocols settings
  | .pushProtocol protocol => side.protocols.adjust (· ++ [protocol]) settings
  | .popProtocol => side.protocols.adjust List.dropLast settings
  | .reverseProtocols => side.protocols.adjust List.reverse settings
  | .repeatProtocols => side.protocols.adjust (fun protocols => protocols ++ protocols) settings
  | .setFragment size => side.maxFragment.write size settings
  | .setFragmentByProtocols base =>
    side.maxFragment.write (some (base + (side.protocols.read settings).length)) settings
  | .doubleFragment => side.maxFragment.adjust (Option.map (2 * ·)) settings

end SharedMutation

namespace ClientMutation

/-- What the step does. -/
def apply (mutation : ClientMutation) (settings : ClientSettings) : ClientSettings :=
  match mutation with
  | .setIndicatesName indicates => { settings with indicatesName := indicates }
  | .pushProtocol protocol => { settings with protocols := settings.protocols ++ [protocol] }

end ClientMutation

namespace ServerMutation

/-- What the step does. -/
def apply (mutation : ServerMutation) (settings : ServerSettings) : ServerSettings :=
  match mutation with
  | .setIgnoresClientOrder ignores => { settings with ignoresClientOrder := ignores }
  | .pushProtocol protocol => { settings with protocols := settings.protocols ++ [protocol] }

end ServerMutation

namespace Mutation

/-- What the step does to the settings of a side. One for the other side finds nothing to change. -/
def apply (mutation : Mutation) (side : Side) (settings : side.Settings) : side.Settings :=
  match mutation with
  | .shared mutation => mutation.apply side settings
  | .client mutation => (side.client?.map (·.adjust mutation.apply settings)).getD settings
  | .server mutation => (side.server?.map (·.adjust mutation.apply settings)).getD settings

/-- What the step does to a client's settings. -/
def applyClient (mutation : Mutation) (settings : ClientSettings) : ClientSettings :=
  mutation.apply .client settings

/-- What the step does to a server's settings. -/
def applyServer (mutation : Mutation) (settings : ServerSettings) : ServerSettings :=
  mutation.apply .server settings

/-- Whether the step is for both sides. -/
def isShared : Mutation → Bool
  | .shared _ => true
  | .client _ => false
  | .server _ => false

/-- Whether the step is for clients alone. -/
def isClient : Mutation → Bool
  | .shared _ => false
  | .client _ => true
  | .server _ => false

/-- Whether the step is for servers alone. -/
def isServer : Mutation → Bool
  | .shared _ => false
  | .client _ => false
  | .server _ => true

end Mutation

/-- The customizer that performs `mutations` in order. -/
def Customizer.ofMutations (mutations : List Mutation) : Customizer where
  onClient settings := mutations.foldl (fun settings mutation => mutation.applyClient settings) settings
  onServer settings := mutations.foldl (fun settings mutation => mutation.applyServer settings) settings

end TlsIdentity
