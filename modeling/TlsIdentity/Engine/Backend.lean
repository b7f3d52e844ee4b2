/-!
# Protocol versions and cryptography backends

A backend has cipher suites for the protocol versions it speaks. One without any suite can be chosen,
and is refused only when a configuration is to be made with it. All else about a backend is for the engine to
know: what it answers with one backend says nothing about what it answers with another.
-/

namespace TlsIdentity

/-- The protocol versions that can be spoken. -/
inductive TlsVersion where
  | v12
  | v13
  deriving DecidableEq, Repr

/-- What an engine computes with. Two backends are one if all of this is the same; those that differ in
    something that is not said here, such as which suites they have, have different names. -/
structure Backend where
  /-- The name by which the backend is told from others. -/
  name : String
  /-- How many cipher suites there are for TLS 1.2. -/
  suites12 : Nat
  /-- How many cipher suites there are for TLS 1.3. -/
  suites13 : Nat
  /-- Whether every private key is refused. -/
  refusesKeys : Bool := false
  deriving DecidableEq, Repr

namespace Backend

/-- A backend with suites for both versions. -/
def standard : Backend := { name := "standard", suites12 := 6, suites13 := 3 }

/-- The standard backend without its TLS 1.3 suites. -/
def only12 : Backend := { standard with name := "only12", suites13 := 0 }

/-- The standard backend without its TLS 1.2 suites. -/
def only13 : Backend := { standard with name := "only13", suites12 := 0 }

/-- The standard backend without any suite. -/
def withoutSuites : Backend :=
  { standard with name := "withoutSuites", suites12 := 0, suites13 := 0 }

/-- The standard backend for machines that keep their keys elsewhere. -/
def withoutKeys : Backend := { standard with name := "withoutKeys", refusesKeys := true }

/-- How many cipher suites there are. -/
def suiteCount (backend : Backend) : Nat :=
  backend.suites12 + backend.suites13

/-- Whether a version can be spoken: one of its suites is there. -/
def speaks (backend : Backend) : TlsVersion → Bool
  | .v12 => backend.suites12 ≠ 0
  | .v13 => backend.suites13 ≠ 0

/-- Whether any version can be spoken. -/
def isUsable (backend : Backend) : Bool :=
  backend.suiteCount ≠ 0

end Backend

end TlsIdentity
