import TlsIdentity.Configuration.Settings

/-!
# Customizers

A customizer adjusts the settings of a configuration, whichever side it is for. A chain of customizers
runs in the order in which they were registered, each on what the one before it left.
-/

namespace TlsIdentity

/-- An adjustment of settings, for either side of a connection. -/
structure Customizer where
  onClient : ClientSettings → ClientSettings
  onServer : ServerSettings → ServerSettings

/-- Customizers in the order in which they run. -/
abbrev CustomizerChain := List Customizer

namespace CustomizerChain

/-- Run the chain on a client's settings. -/
def applyClient (chain : CustomizerChain) (settings : ClientSettings) : ClientSettings :=
  chain.foldl (fun settings customizer => customizer.onClient settings) settings

/-- Run the chain on a server's settings. -/
def applyServer (chain : CustomizerChain) (settings : ServerSettings) : ServerSettings :=
  chain.foldl (fun settings customizer => customizer.onServer settings) settings

/-- The chain with one more customizer, which runs last. -/
def push (chain : CustomizerChain) (customizer : Customizer) : CustomizerChain :=
  chain ++ [customizer]

/-- The chain as messages show it. -/
def describe (chain : CustomizerChain) : String :=
  "CustomizerChain \x7b " ++ toString chain.length ++ " customizers \x7d"

end CustomizerChain

end TlsIdentity
