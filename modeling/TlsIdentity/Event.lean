import TlsIdentity.HostSet
import TlsIdentity.PeerName

/-!
# Events

What the library reports while it works. A function that reports returns its events in order next to its
value, also when the value is a failure, so what was reported is part of its meaning.
-/

namespace TlsIdentity

/-- How much an event matters. -/
inductive Severity where
  | debug
  | info
  | warn
  deriving DecidableEq, Repr

/-- Something worth reporting. -/
inductive Event where
  /-- A profile was made that verifies no server. -/
  | noVerification
  /-- A profile was made that does not verify these servers. -/
  | noVerificationOf (hosts : HostSet)
  /-- A profile was made that allows unsafe cipher suites. -/
  | unsafeSuitesAllowed
  /-- A profile was made in which no identity is registered. -/
  | noIdentity
  /-- No identity is registered for a host. -/
  | noIdentityFor (host : String)
  /-- A server's chain was not verified. -/
  | verificationSkipped (peer : PeerName)
  /-- A file of certificates holds none. -/
  | noCertificates (path : String)
  /-- A credential was loaded. -/
  | credentialLoaded (keyPath certPath : String)
  deriving DecidableEq

namespace Event

/-- How much the event matters. -/
def severity : Event → Severity
  | .noVerification => .warn
  | .noVerificationOf _ => .warn
  | .unsafeSuitesAllowed => .warn
  | .noIdentity => .debug
  | .noIdentityFor _ => .debug
  | .verificationSkipped _ => .debug
  | .noCertificates _ => .warn
  | .credentialLoaded .. => .info

/-- The event as text. -/
def message : Event → String
  | .noVerification => "TLS server certificate verification is disabled for all hosts"
  | .noVerificationOf hosts =>
    "TLS server certificate verification is disabled for " ++ ", ".intercalate hosts.toList
  | .unsafeSuitesAllowed => "TLS provider built with unsafe cipher suites allowed"
  | .noIdentity => "TLS provider built without any identity"
  | .noIdentityFor host => "No TLS identity for " ++ Text.quoted host
  | .verificationSkipped peer => "Skipping TLS certificate verification for " ++ peer.describe
  | .noCertificates path => "No certificates loaded from file " ++ path
  | .credentialLoaded keyPath certPath =>
    "Loaded TLS identity from " ++ keyPath ++ " and " ++ certPath

end Event

/-- A value together with what was reported on the way to it. -/
structure Reported (α : Type) where
  events : List Event
  value : α

/-- A computation that reports and may fail; what it reported before it failed is kept. -/
abbrev Attempt (ε : Type) := ExceptT ε Reported

namespace Reported

variable {α β : Type}

/-- A value with no report. -/
def silent (value : α) : Reported α := ⟨[], value⟩

/-- Report `event`. -/
def report (event : Event) : Reported Unit := ⟨[event], ()⟩

/-- Go on with a value; the reports follow each other. -/
def andThen (first : Reported α) (next : α → Reported β) : Reported β :=
  ⟨first.events ++ (next first.value).events, (next first.value).value⟩

instance : Monad Reported where
  pure := silent
  bind := andThen

/-! ## What sequencing does to value and report -/

@[ext] theorem ext {x y : Reported α} (events : x.events = y.events) (value : x.value = y.value) :
    x = y := by
  cases x; cases y; simp_all

@[simp] theorem events_pure (a : α) : (pure a : Reported α).events = [] := rfl

@[simp] theorem value_pure (a : α) : (pure a : Reported α).value = a := rfl

@[simp] theorem events_bind (x : Reported α) (f : α → Reported β) :
    (x >>= f).events = x.events ++ (f x.value).events := rfl

@[simp] theorem value_bind (x : Reported α) (f : α → Reported β) :
    (x >>= f).value = (f x.value).value := rfl

@[simp] theorem events_map (f : α → β) (x : Reported α) : (f <$> x).events = x.events := by
  show x.events ++ [] = x.events
  simp

@[simp] theorem value_map (f : α → β) (x : Reported α) : (f <$> x).value = f x.value := rfl

@[simp] theorem events_report (event : Event) : (report event).events = [event] := rfl

@[simp] theorem value_report (event : Event) : (report event).value = () := rfl

instance : LawfulMonad Reported := LawfulMonad.mk' Reported
  (by intros; ext1 <;> simp)
  (by intros; ext1 <;> simp)
  (by intros; ext1 <;> simp)

end Reported

namespace Attempt

variable {ε α : Type}

/-- Report `event` in the course of an attempt. -/
def report (event : Event) : Attempt ε Unit :=
  ExceptT.lift (Reported.report event)

/-- An outcome without a report, as an attempt. -/
def ofExcept (outcome : Except ε α) : Attempt ε α :=
  ExceptT.mk (pure outcome)

@[simp] theorem run_report (event : Event) :
    (report event : Attempt ε Unit).run = ⟨[event], .ok ()⟩ := rfl

@[simp] theorem run_ofExcept (outcome : Except ε α) : (ofExcept outcome).run = pure outcome := rfl

/-- A step that succeeds is followed by the next one, and its reports by those of the next. -/
theorem run_bind_of_ok {β : Type} {first : Attempt ε α} {next : α → Attempt ε β} {events : List Event}
    {a : α} (h : first.run = ⟨events, .ok a⟩) :
    (first >>= next).run = ⟨events ++ (next a).run.events, (next a).run.value⟩ := by
  show first.run.andThen _ = _
  rw [h]
  rfl

/-- A step that fails is the last one. -/
theorem run_bind_of_error {β : Type} {first : Attempt ε α} {next : α → Attempt ε β}
    {events : List Event} {error : ε} (h : first.run = ⟨events, .error error⟩) :
    (first >>= next).run = ⟨events, .error error⟩ := by
  show first.run.andThen _ = _
  rw [h]
  show Reported.mk (events ++ []) _ = _
  rw [List.append_nil]
  rfl

/-! ## Outcomes -/

/-- What is only reported cannot fail, and the next step has its value. -/
theorem value_lift_bind {β : Type} {reported : Reported α} {next : α → Attempt ε β} :
    ((ExceptT.lift reported : Attempt ε α) >>= next).run.value = (next reported.value).run.value := rfl

theorem value_bind_of_ok {β : Type} {first : Attempt ε α} {next : α → Attempt ε β} {a : α}
    (h : first.run.value = .ok a) : (first >>= next).run.value = (next a).run.value := by
  have hrun : first.run = ⟨first.run.events, .ok a⟩ := by
    rw [← h]
  rw [run_bind_of_ok hrun]

theorem value_bind_of_error {β : Type} {first : Attempt ε α} {next : α → Attempt ε β} {error : ε}
    (h : first.run.value = .error error) : (first >>= next).run.value = .error error := by
  have hrun : first.run = ⟨first.run.events, .error error⟩ := by
    rw [← h]
  rw [run_bind_of_error hrun]

/-- An attempt in two steps succeeds if both steps do. -/
theorem value_bind_eq_ok_iff {β : Type} {first : Attempt ε α} {next : α → Attempt ε β} {b : β} :
    (first >>= next).run.value = .ok b ↔
      ∃ a, first.run.value = .ok a ∧ (next a).run.value = .ok b := by
  cases hfirst : first.run.value with
  | error error =>
    rw [value_bind_of_error hfirst]
    constructor
    · intro h
      cases h
    · rintro ⟨_, h, _⟩
      cases h
  | ok a =>
    rw [value_bind_of_ok hfirst]
    constructor
    · intro h
      exact ⟨a, rfl, h⟩
    · rintro ⟨_, h, hnext⟩
      cases h
      exact hnext

@[simp] theorem value_pure_eq_ok_iff {a b : α} :
    (pure a : Attempt ε α).run.value = .ok b ↔ a = b := by
  show Except.ok a = Except.ok b ↔ _
  rw [Except.ok.injEq]

@[simp] theorem value_lift_eq_ok_iff {reported : Reported α} {a : α} :
    (ExceptT.lift reported : Attempt ε α).run.value = .ok a ↔ reported.value = a := by
  show Except.ok reported.value = Except.ok a ↔ _
  rw [Except.ok.injEq]

@[simp] theorem value_ofExcept_eq_ok_iff {outcome : Except ε α} {a : α} :
    (ofExcept outcome).run.value = .ok a ↔ outcome = .ok a := Iff.rfl

/-- Telling an error in other words does not touch a success. -/
@[simp] theorem value_adapt_eq_ok_iff {ε' : Type} {wrap : ε → ε'} {attempt : Attempt ε α} {a : α} :
    (ExceptT.adapt wrap attempt : Attempt ε' α).run.value = .ok a ↔ attempt.run.value = .ok a := by
  show attempt.run.value.mapError wrap = .ok a ↔ _
  cases attempt.run.value with
  | error own => exact ⟨nofun, nofun⟩
  | ok b =>
    show (Except.ok b : Except ε' α) = .ok a ↔ _
    rw [Except.ok.injEq, Except.ok.injEq]

end Attempt

end TlsIdentity
