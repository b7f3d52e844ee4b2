import TlsIdentity.Entries
import TlsIdentity.HostName.Pattern

/-!
# Identity tables

An identity table says which identity to present to a peer known by a host name. An exact name wins over
every pattern with a star; of the patterns that cover a whole level of names the one registered first
wins; the fallback serves hosts that nothing else covers. Registering a pattern again replaces its
identity and keeps its place.
-/

namespace TlsIdentity

/-- Identities by host pattern. -/
structure IdentityTable (α : Type) where
  /-- Identities of single hosts, by canonical name. -/
  exact : Entries α := []
  /-- Identities of all hosts directly below a name, by that name. -/
  below : Entries α := []
  /-- The identity of every other host. -/
  fallback : Option α := none

namespace IdentityTable

variable {α : Type}

/-- The table in which nothing is registered. -/
def empty : IdentityTable α := {}

/-- Register `identity` for a pattern. -/
def insert (table : IdentityTable α) (pattern : HostPattern) (identity : α) : IdentityTable α :=
  match pattern with
  | .any => { table with fallback := some identity }
  | .exact name => { table with exact := table.exact.put name identity }
  | .below parent => { table with below := table.below.put parent identity }

/-- The identity of the first registered parent that `name` is directly below. -/
def findBelow? (table : IdentityTable α) (name : String) : Option α :=
  (table.below.find? fun entry => (HostPattern.below entry.1).covers name).map (·.2)

/-- The identity to present to a peer known as `host`, in any spelling. -/
def find? (table : IdentityTable α) (host : String) : Option α :=
  let name := HostName.canonical host
  table.exact.get? name <|> table.findBelow? name <|> table.fallback

/-- How many patterns are registered, the fallback included. -/
def size (table : IdentityTable α) : Nat :=
  table.exact.length + table.below.length + table.fallback.toList.length

/-- Whether nothing is registered. -/
def isEmpty (table : IdentityTable α) : Bool :=
  table.size = 0

/-! ## Listing -/

/-- The registered single hosts. They are a set, and look-up does not depend on any order of them; the list
    has them in increasing order so that one set is written in one way. -/
def exactNames (table : IdentityTable α) : List String :=
  table.exact.names.mergeSort (· ≤ ·)

/-- The registered patterns with a star, in the order in which they are tried. -/
def starPatterns (table : IdentityTable α) : List HostPattern :=
  table.below.names.map .below ++ (table.fallback.toList.map fun _ => .any)

/-- Every registered pattern: the single hosts, whose order says nothing, then the others in the order in
    which they are tried. -/
def patterns (table : IdentityTable α) : List HostPattern :=
  table.exactNames.map .exact ++ table.starPatterns

end IdentityTable

end TlsIdentity
