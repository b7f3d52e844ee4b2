/-!
# Settings of a connection

What may be adjusted in a configuration before connections are made from it. Clients and servers share
what they negotiate about; each has one setting of its own. Whoever adjusts settings without asking which
side they are for does it through the places at the end of this file.
-/

namespace TlsIdentity

/-- The settings that both sides of a connection have. -/
structure Negotiation where
  /-- The application protocols, most wanted first. -/
  protocols : List String := []
  /-- The largest fragment to send; `none` is the most that the protocol allows. -/
  maxFragment : Option Nat := none
  deriving DecidableEq, Repr

/-- The settings of a client. -/
structure ClientSettings extends Negotiation where
  /-- Whether the server is told the name by which it is reached. -/
  indicatesName : Bool := true
  deriving DecidableEq, Repr

/-- The settings of a server. -/
structure ServerSettings extends Negotiation where
  /-- Whether the server's order of cipher suites wins over the client's. -/
  ignoresClientOrder : Bool := false
  deriving DecidableEq, Repr

namespace Negotiation

/-- Whether the fragment size is one that connections can be made with. -/
def hasValidFragment (settings : Negotiation) : Bool :=
  settings.maxFragment.all fun size => 32 ≤ size && size ≤ 16389

/-- The protocol to speak, given the server's and the client's lists: the first of the server's that the
    client has. Where one side has no list there is no protocol; `error` says that none is common. -/
def chooseProtocol (server client : List String) : Except Unit (Option String) :=
  if server = [] ∨ client = [] then .ok none
  else match server.find? client.contains with
    | some protocol => .ok (some protocol)
    | none => .error ()

end Negotiation

/-! ## Settings of either side -/

/-- The sides of a connection. -/
inductive Side where
  | client
  | server
  deriving DecidableEq, Repr

/-- The settings that a side has. -/
abbrev Side.Settings : Side → Type
  | .client => ClientSettings
  | .server => ServerSettings

/-- Where in a whole a part of it is read and written. -/
structure Place (σ α : Type) where
  read : σ → α
  write : α → σ → σ

namespace Place

variable {σ α : Type}

/-- The place of a whole in itself. -/
def whole (σ : Type) : Place σ σ where
  read part := part
  write part _ := part

/-- Change the part at this place. -/
def adjust (place : Place σ α) (change : α → α) (whole : σ) : σ :=
  place.write (change (place.read whole)) whole

end Place

namespace Side

/-- The application protocols that a client offers or a server accepts. -/
def protocols : (side : Side) → Place side.Settings (List String)
  | .client => { read := (·.protocols), write := fun protocols settings => { settings with protocols } }
  | .server => { read := (·.protocols), write := fun protocols settings => { settings with protocols } }

/-- The largest fragment. -/
def maxFragment : (side : Side) → Place side.Settings (Option Nat)
  | .client => { read := (·.maxFragment), write := fun maxFragment settings => { settings with maxFragment } }
  | .server => { read := (·.maxFragment), write := fun maxFragment settings => { settings with maxFragment } }

/-- All settings of a client, if they are a client's. -/
def client? : (side : Side) → Option (Place side.Settings ClientSettings)
  | .client => some (.whole ClientSettings)
  | .server => none

/-- All settings of a server, if they are a server's. -/
def server? : (side : Side) → Option (Place side.Settings ServerSettings)
  | .client => none
  | .server => some (.whole ServerSettings)

end Side

end TlsIdentity
