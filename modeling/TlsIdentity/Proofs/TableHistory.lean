import Mathlib.Data.List.Induction
import TlsIdentity.IdentityTable

/-!
# Tables and their histories

A table keeps three stores, each updated in its own way. What they say is a function of the history, the
list of registrations that made the table: the value of a pattern is that of its last registration, and
patterns with a star stand in the order of their first. `Records` states this for each store, one
registration keeps it (`Records.insert`), and look-up is read off it.
-/

namespace TlsIdentity

/-! ## Entries -/

namespace Entries

variable {α : Type}

theorem get?_put {entries : Entries α} {name other : String} {value : α} :
    (entries.put name value).get? other = if other = name then some value else entries.get? other := by
  by_cases h : other = name
  · rw [if_pos h, h, get?_put_self]
  · rw [if_neg h, get?_put_of_ne h]

/-- The value of the first entry that fits is the value under the first name that fits: an earlier entry
    of that name would have fitted too. -/
theorem find?_fst (fits : String → Bool) (entries : Entries α) :
    (entries.find? fun entry => fits entry.1).map (·.2) = (entries.names.find? fits).bind entries.get? := by
  induction entries with
  | nil => rfl
  | cons entry rest ih =>
    have hnames : names (entry :: rest) = entry.1 :: names rest := rfl
    rw [hnames, List.find?_cons, List.find?_cons]
    cases hfits : fits entry.1 with
    | true =>
      show some entry.2 = get? (entry :: rest) entry.1
      rw [get?_cons, if_pos rfl]
    | false =>
      show (rest.find? fun entry => fits entry.1).map (·.2) = _
      rw [ih]
      cases hfind : (names rest).find? fits with
      | none => rfl
      | some name =>
        -- the name that fits is not the first one, so look-up passes the first entry
        have hother : name ≠ entry.1 := by
          rintro rfl
          rw [List.find?_some hfind] at hfits
          cases hfits
        show get? rest name = get? (entry :: rest) name
        rw [get?_cons, if_neg hother]

end Entries

/-- A name that comes once more adds nothing to the distinct names; a new one comes last. -/
theorem eraseDups_snoc (names : List String) (name : String) :
    (names ++ [name]).eraseDups =
      if name ∈ names.eraseDups then names.eraseDups else names.eraseDups ++ [name] := by
  rw [List.eraseDups_append]
  by_cases h : name ∈ names
  · rw [if_pos (List.mem_eraseDups.mpr h)]
    simp [List.removeAll, h]
  · rw [if_neg (fun hc => h (List.mem_eraseDups.mp hc))]
    simp [List.removeAll, h, List.eraseDups_cons]

/-! ## Histories -/

/-- Registrations, the earliest first. -/
abbrev History (α : Type) := List (HostPattern × α)

namespace History

variable {α : Type} {history : History α} {pattern other : HostPattern} {identity : α}

/-- The identity of the last registration of a pattern. -/
def lastFor (history : History α) (pattern : HostPattern) : Option α :=
  history.reverse.lookup pattern

/-- The parent name of a pattern that covers the hosts below one. -/
def parentOf? : HostPattern → Option String
  | .below parent => some parent
  | _ => none

/-- The parents of all registered levels, each once, in the order of their first registrations. -/
def parents (history : History α) : List String :=
  ((history.map (·.1)).filterMap parentOf?).eraseDups

/-- Whom the history presents to a peer known as `host`. The last registration of the host's own name
    decides; without one, the last registration of the first level, in the order of first registrations,
    that holds the host; without such a level, the last registration of the fallback. -/
def resolve? (history : History α) (host : String) : Option α :=
  let name := HostName.canonical host
  match lastFor history (.exact name) with
  | some identity => some identity
  | none =>
    match (parents history).find? fun parent => (HostPattern.below parent).covers name with
    | some parent => lastFor history (.below parent)
    | none => lastFor history .any

/-! ## One registration more -/

/-- The parents with that of one more pattern: a parent that is there keeps its place, a new one goes
    last, and a pattern without parent changes nothing. -/
def addParent (parents : List String) (pattern : HostPattern) : List String :=
  match parentOf? pattern with
  | some parent => if parent ∈ parents then parents else parents ++ [parent]
  | none => parents

theorem lastFor_snoc :
    lastFor (history ++ [(other, identity)]) pattern =
      if pattern = other then some identity else lastFor history pattern := by
  rw [lastFor, List.reverse_append, List.reverse_singleton, List.singleton_append, List.lookup_cons]
  by_cases h : pattern = other
  · rw [if_pos h, h, beq_self_eq_true]
  · rw [if_neg h, beq_false_of_ne h]
    rfl

theorem parents_snoc : parents (history ++ [(other, identity)]) = addParent (parents history) other := by
  rw [parents, List.map_append, List.filterMap_append, List.map_singleton, addParent]
  cases hparent : parentOf? other with
  | none =>
    rw [List.filterMap_cons_none hparent, List.filterMap_nil, List.append_nil]
    rfl
  | some parent =>
    rw [List.filterMap_cons_some hparent, List.filterMap_nil]
    exact eraseDups_snoc _ parent

/-! ## What is registered -/

/-- A pattern has a last registration if it has any. -/
theorem isSome_lastFor_iff : (lastFor history pattern).isSome = true ↔ pattern ∈ history.map (·.1) := by
  rw [lastFor, List.lookup_isSome_iff, List.mem_map]
  constructor
  · rintro ⟨entry, hentry, hpattern⟩
    exact ⟨entry, List.mem_reverse.mp hentry, (eq_of_beq hpattern).symm⟩
  · rintro ⟨entry, hentry, rfl⟩
    exact ⟨entry, List.mem_reverse.mpr hentry, beq_self_eq_true _⟩

theorem mem_parents_iff {parent : String} :
    parent ∈ parents history ↔ .below parent ∈ history.map (·.1) := by
  rw [parents, List.mem_eraseDups, List.mem_filterMap]
  constructor
  · rintro ⟨pattern, hpattern, hparent⟩
    cases pattern with
    | below other =>
      cases hparent
      exact hpattern
    | any => cases hparent
    | exact name => cases hparent
  · intro h
    exact ⟨_, h, rfl⟩

end History

/-! ## Tables -/

namespace IdentityTable

open History

variable {α : Type} {table : IdentityTable α} {history : History α}

/-- The table that a history makes. -/
def ofHistory (history : History α) : IdentityTable α :=
  history.foldl (fun table entry => table.insert entry.1 entry.2) .empty

/-! ## What a registration does to each store -/

theorem exact_get?_insert {pattern : HostPattern} {identity : α} {name : String} :
    (table.insert pattern identity).exact.get? name =
      if .exact name = pattern then some identity else table.exact.get? name := by
  cases pattern with
  | exact own =>
    show (table.exact.put own identity).get? name = _
    rw [Entries.get?_put]
    simp only [HostPattern.exact.injEq]
  | any =>
    rw [if_neg (by rintro ⟨⟩)]
    rfl
  | below parent =>
    rw [if_neg (by rintro ⟨⟩)]
    rfl

theorem below_get?_insert {pattern : HostPattern} {identity : α} {parent : String} :
    (table.insert pattern identity).below.get? parent =
      if .below parent = pattern then some identity else table.below.get? parent := by
  cases pattern with
  | below own =>
    show (table.below.put own identity).get? parent = _
    rw [Entries.get?_put]
    simp only [HostPattern.below.injEq]
  | any =>
    rw [if_neg (by rintro ⟨⟩)]
    rfl
  | exact name =>
    rw [if_neg (by rintro ⟨⟩)]
    rfl

theorem below_names_insert {pattern : HostPattern} {identity : α} :
    (table.insert pattern identity).below.names = addParent table.below.names pattern := by
  cases pattern with
  | below own => exact Entries.names_put
  | any => rfl
  | exact name => rfl

theorem fallback_insert {pattern : HostPattern} {identity : α} :
    (table.insert pattern identity).fallback =
      if .any = pattern then some identity else table.fallback := by
  cases pattern with
  | any => rfl
  | exact name =>
    rw [if_neg (by rintro ⟨⟩)]
    rfl
  | below parent =>
    rw [if_neg (by rintro ⟨⟩)]
    rfl

/-! ## The invariant -/

/-- The table says of every pattern what the history says of it. -/
structure Records (table : IdentityTable α) (history : History α) : Prop where
  exact_get? : ∀ name, table.exact.get? name = lastFor history (.exact name)
  below_get? : ∀ parent, table.below.get? parent = lastFor history (.below parent)
  below_names : table.below.names = parents history
  fallback_eq : table.fallback = lastFor history .any

theorem records_empty : Records (.empty : IdentityTable α) [] where
  exact_get? _ := rfl
  below_get? _ := rfl
  below_names := rfl
  fallback_eq := rfl

/-- **One registration more**, and the table still says what the history says. -/
theorem Records.insert (h : Records table history) (pattern : HostPattern) (identity : α) :
    Records (table.insert pattern identity) (history ++ [(pattern, identity)]) where
  exact_get? name := by rw [exact_get?_insert, lastFor_snoc, h.exact_get?]
  below_get? parent := by rw [below_get?_insert, lastFor_snoc, h.below_get?]
  below_names := by rw [below_names_insert, parents_snoc, h.below_names]
  fallback_eq := by rw [fallback_insert, lastFor_snoc, h.fallback_eq]

/-- **Every table records its history.** -/
theorem records_ofHistory (history : History α) : Records (ofHistory history) history := by
  induction history using List.reverseRecOn with
  | nil => exact records_empty
  | append_singleton history entry ih =>
    -- the last registration acts on the table of those before it
    rw [ofHistory, List.foldl_append]
    exact ih.insert entry.1 entry.2

/-! ## Look-up -/

/-- Look-up does not tell spellings of one name apart. -/
theorem find?_congr (table : IdentityTable α) {host other : String}
    (h : HostName.canonical host = HostName.canonical other) : table.find? host = table.find? other := by
  simp only [find?, h]

/-- A table that records a history presents whom the history presents. -/
theorem Records.find?_eq (h : Records table history) (host : String) :
    table.find? host = history.resolve? host := by
  have hbelow : table.findBelow? (HostName.canonical host) =
      ((parents history).find? fun parent =>
        (HostPattern.below parent).covers (HostName.canonical host)).bind
          fun parent => lastFor history (.below parent) := by
    rw [findBelow?, Entries.find?_fst fun parent => (HostPattern.below parent).covers _, h.below_names,
      funext h.below_get?]
  rw [find?, h.exact_get?, hbelow, h.fallback_eq, resolve?]
  cases lastFor history (.exact (HostName.canonical host)) with
  | some identity => rfl
  | none =>
    cases hparent : (parents history).find? fun parent =>
        (HostPattern.below parent).covers (HostName.canonical host) with
    | none => rfl
    | some parent =>
      -- the level was registered, so look-up does not go on to the fallback
      have hmem := mem_parents_iff.mp (List.mem_of_find?_eq_some hparent)
      obtain ⟨identity, hidentity⟩ := Option.isSome_iff_exists.mp (isSome_lastFor_iff.mpr hmem)
      simp only [Option.bind_some, hidentity]
      rfl

/-- **Look-up follows the history**, whatever was registered, in whatever order and how often. -/
theorem find?_ofHistory (history : History α) (host : String) :
    (ofHistory history).find? host = history.resolve? host :=
  (records_ofHistory history).find?_eq host

/-- A level keeps its place when its identity is replaced. -/
example : (ofHistory [(.below "b.com", 1), (.exact "a.b.com", 2), (.any, 3), (.below "b.com", 4)]).find?
    "X.B.com." = some 4 := by decide

end IdentityTable

end TlsIdentity
