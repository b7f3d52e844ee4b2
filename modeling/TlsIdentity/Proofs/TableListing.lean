import Mathlib.Data.Finset.Card
import TlsIdentity.Proofs.RegistrationOrder

/-!
# What a table lists

A table keeps single hosts, levels and the fallback apart, and lists them one after the other. The three parts
share no pattern, and none of them holds one twice, so the listing is the set of the registered patterns and its
length is the table's size. Of the levels more is true: they stand in the order of their first registrations
(`pairwise_idxOf_levels`), which one registration more keeps, since the first place of a pattern in a history
does not move when the history grows.
-/

namespace TlsIdentity

/-! ## First places -/

section

variable {β : Type} [DecidableEq β] {history listed : List β} {entry : β}

/-- What stands in the order of first places still does when the history grows. -/
theorem pairwise_idxOf_snoc (h : listed.Pairwise fun first later => history.idxOf first < history.idxOf later)
    (hmem : ∀ other ∈ listed, other ∈ history) (entry : β) :
    listed.Pairwise fun first later =>
      (history ++ [entry]).idxOf first < (history ++ [entry]).idxOf later := by
  refine h.imp_of_mem fun {first later} hfirst hlater hlt => ?_
  rwa [List.idxOf_append_of_mem (hmem first hfirst), List.idxOf_append_of_mem (hmem later hlater)]

/-- What is new has its first place after all others. -/
theorem pairwise_idxOf_snoc_new
    (h : listed.Pairwise fun first later => history.idxOf first < history.idxOf later)
    (hmem : ∀ other ∈ listed, other ∈ history) (hnew : entry ∉ history) :
    (listed ++ [entry]).Pairwise fun first later =>
      (history ++ [entry]).idxOf first < (history ++ [entry]).idxOf later := by
  refine List.pairwise_append.mpr ⟨pairwise_idxOf_snoc h hmem entry, List.pairwise_singleton _ entry, ?_⟩
  intro first hfirst last hlast
  rw [List.mem_singleton.mp hlast, List.idxOf_append_of_mem (hmem first hfirst), List.idxOf_append,
    if_neg hnew]
  exact Nat.lt_of_lt_of_le (List.idxOf_lt_length_iff.mpr (hmem first hfirst)) (Nat.le_add_left _ _)

end

/-! ## Histories -/

namespace History

variable {α : Type} {history : History α} {pattern : HostPattern} {parent : String}

theorem parentOf?_eq_some_iff : parentOf? pattern = some parent ↔ pattern = .below parent := by
  cases pattern <;> simp [parentOf?]

/-- **The levels of a history are in the order of their first registrations.** -/
theorem pairwise_idxOf_levels (history : History α) :
    ((parents history).map HostPattern.below).Pairwise fun first later =>
      (history.map (·.1)).idxOf first < (history.map (·.1)).idxOf later := by
  induction history using List.reverseRecOn with
  | nil => exact List.Pairwise.nil
  | append_singleton history entry ih =>
    obtain ⟨pattern, identity⟩ := entry
    have hmem : ∀ other ∈ (parents history).map HostPattern.below, other ∈ history.map (·.1) := by
      intro other hother
      obtain ⟨parent, hparent, rfl⟩ := List.mem_map.mp hother
      exact mem_parents_iff.mp hparent
    rw [parents_snoc, addParent, List.map_append, List.map_singleton]
    split
    · next parent hpattern =>
      obtain rfl := parentOf?_eq_some_iff.mp hpattern
      split
      · exact pairwise_idxOf_snoc ih hmem _
      · next hnew =>
        rw [List.map_append, List.map_singleton]
        exact pairwise_idxOf_snoc_new ih hmem fun hc => hnew (mem_parents_iff.mpr hc)
    · exact pairwise_idxOf_snoc ih hmem _

/-- A pattern that is registered again brings no new level. -/
theorem parents_snoc_of_mem {identity : α} (h : pattern ∈ history.map (·.1)) :
    parents (history ++ [(pattern, identity)]) = parents history := by
  rw [parents_snoc, addParent]
  split
  · next parent hpattern =>
    obtain rfl := parentOf?_eq_some_iff.mp hpattern
    rw [if_pos (mem_parents_iff.mpr h)]
  · rfl

end History

/-! ## Tables -/

namespace IdentityTable

open History

variable {α : Type} {table : IdentityTable α} {history : History α} {pattern : HostPattern} {identity : α}

theorem ofHistory_snoc :
    ofHistory (history ++ [(pattern, identity)]) = (ofHistory history).insert pattern identity := by
  rw [ofHistory, List.foldl_append]
  rfl

/-- The identity that is registered for a pattern itself. -/
def identityOf? (table : IdentityTable α) : HostPattern → Option α
  | .any => table.fallback
  | .exact name => table.exact.get? name
  | .below parent => table.below.get? parent

theorem identityOf?_insert {other : HostPattern} :
    (table.insert pattern identity).identityOf? other =
      if other = pattern then some identity else table.identityOf? other := by
  cases other with
  | any => exact fallback_insert
  | exact name => exact exact_get?_insert
  | below parent => exact below_get?_insert

theorem Records.identityOf?_eq (h : Records table history) (pattern : HostPattern) :
    table.identityOf? pattern = lastFor history pattern := by
  cases pattern with
  | any => exact h.fallback_eq
  | exact name => exact h.exact_get? name
  | below parent => exact h.below_get? parent

/-- **A table lists the patterns that have an identity.** -/
theorem isSome_identityOf?_iff : (table.identityOf? pattern).isSome = true ↔ pattern ∈ table.patterns := by
  rw [patterns, starPatterns, exactNames]
  cases pattern with
  | any => cases hfallback : table.fallback <;> simp [identityOf?, hfallback]
  | exact name => simp [identityOf?, Entries.isSome_get?_iff]
  | below parent => simp [identityOf?, Entries.isSome_get?_iff]

/-- What is listed and registered again keeps its place in the listing. -/
theorem patterns_insert_of_mem (h : pattern ∈ table.patterns) :
    (table.insert pattern identity).patterns = table.patterns := by
  have hsome := isSome_identityOf?_iff.mpr h
  cases pattern with
  | any =>
    obtain ⟨own, hown⟩ := Option.isSome_iff_exists.mp hsome
    have hfallback : table.fallback = some own := hown
    rw [patterns, patterns, starPatterns, starPatterns, hfallback]
    rfl
  | exact name =>
    have hnames : (table.exact.put name identity).names = table.exact.names := by
      rw [Entries.names_put, if_pos (Entries.isSome_get?_iff.mp hsome)]
    rw [patterns, patterns, exactNames, exactNames, ← hnames]
    rfl
  | below parent =>
    have hnames : (table.below.put parent identity).names = table.below.names := by
      rw [Entries.names_put, if_pos (Entries.isSome_get?_iff.mp hsome)]
    rw [patterns, patterns, starPatterns, starPatterns, ← hnames]
    rfl

theorem length_patterns (table : IdentityTable α) : table.patterns.length = table.size := by
  simp [patterns, exactNames, starPatterns, size, Entries.names, Nat.add_assoc]

/-- The listing of a table that records a history: the levels in the order of the history, and the fallback
    last, if there is one. -/
theorem Records.starPatterns_eq (h : Records table history) :
    table.starPatterns =
      (parents history).map .below ++ if .any ∈ history.map (·.1) then [.any] else [] := by
  rw [starPatterns, h.below_names, h.fallback_eq]
  by_cases hany : .any ∈ history.map (·.1)
  · obtain ⟨identity, hidentity⟩ := Option.isSome_iff_exists.mp (isSome_lastFor_iff.mpr hany)
    rw [if_pos hany, hidentity]
    rfl
  · rw [if_neg hany, lastFor_eq_none_iff.mpr hany]
    rfl

/-- **A table lists what was registered.** -/
theorem Records.mem_patterns_iff (h : Records table history) :
    pattern ∈ table.patterns ↔ pattern ∈ history.map (·.1) := by
  rw [← isSome_identityOf?_iff, h.identityOf?_eq, isSome_lastFor_iff]

/-- The three parts of a listing have no pattern in common, and none holds one twice. -/
theorem Distinct.nodup_patterns (h : Distinct table) : table.patterns.Nodup := by
  have hexact : (table.exactNames.map HostPattern.exact).Nodup :=
    ((List.mergeSort_perm _ _).nodup_iff.mpr h.exact_names).map fun _ _ => HostPattern.exact.inj
  have hbelow : (table.below.names.map HostPattern.below).Nodup :=
    h.below_names.map fun _ _ => HostPattern.below.inj
  have hfallback : (table.fallback.toList.map fun _ => HostPattern.any).Nodup := by
    cases table.fallback <;> simp
  rw [patterns, starPatterns]
  refine List.nodup_append.mpr ⟨hexact, List.nodup_append.mpr ⟨hbelow, hfallback, ?_⟩, ?_⟩
  · rintro _ hfirst _ hlater rfl
    obtain ⟨parent, _, rfl⟩ := List.mem_map.mp hfirst
    obtain ⟨_, _, hlater⟩ := List.mem_map.mp hlater
    cases hlater
  · rintro _ hfirst _ hlater rfl
    obtain ⟨name, _, rfl⟩ := List.mem_map.mp hfirst
    rcases List.mem_append.mp hlater with hlater | hlater <;>
    · obtain ⟨_, _, hlater⟩ := List.mem_map.mp hlater
      cases hlater

/-- The size of a table is the number of different patterns that were registered. -/
theorem size_ofHistory (history : History α) :
    (ofHistory history).size = (history.map (·.1)).toFinset.card := by
  have hsame : (ofHistory history).patterns.toFinset = (history.map (·.1)).toFinset := by
    ext pattern
    rw [List.mem_toFinset, List.mem_toFinset, (records_ofHistory history).mem_patterns_iff]
  rw [← hsame, List.toFinset_card_of_nodup (distinct_ofHistory history).nodup_patterns, length_patterns]

/-- **What a table lists, and how many.** For every history of registrations, of whatever patterns:

    * every registered pattern is listed, once, and nothing else is;
    * the single hosts are listed first, then the levels in the order of their first registrations, and the
      fallback last, if it was registered;
    * the size of the table is the number of different registered patterns and the length of the listing, and
      the table is empty exactly if nothing was registered;
    * to register a pattern again changes neither the size nor the levels and their order. -/
theorem every_pattern_listed_once (history : History α) :
    let table := ofHistory history
    let registered := history.map (·.1)
    table.patterns.Nodup ∧
    (∀ pattern, pattern ∈ table.patterns ↔ pattern ∈ registered) ∧
    (∃ names parents : List String, table.patterns = names.map .exact ++ table.starPatterns ∧
      table.starPatterns = parents.map .below ++ (if .any ∈ registered then [.any] else []) ∧
      (parents.map HostPattern.below).Pairwise fun first later =>
        registered.idxOf first < registered.idxOf later) ∧
    table.size = registered.toFinset.card ∧
    table.patterns.length = table.size ∧
    (table.isEmpty = true ↔ history = []) ∧
    ∀ pattern ∈ registered, ∀ identity,
      (table.insert pattern identity).size = table.size ∧
        (table.insert pattern identity).starPatterns = table.starPatterns := by
  intro table registered
  have hrecords : Records table history := records_ofHistory history
  refine ⟨(distinct_ofHistory history).nodup_patterns, fun _ => hrecords.mem_patterns_iff,
    ⟨table.exactNames, parents history, rfl, hrecords.starPatterns_eq, pairwise_idxOf_levels history⟩,
    size_ofHistory history, length_patterns table, ?_, ?_⟩
  · rw [isEmpty, decide_eq_true_eq, size_ofHistory, Finset.card_eq_zero, List.toFinset_eq_empty_iff,
      List.map_eq_nil_iff]
  · intro pattern hpattern identity
    have hagain : ∀ other, other ∈ registered ++ [pattern] ↔ other ∈ registered := by
      intro other
      rw [List.mem_append, List.mem_singleton]
      exact or_iff_left_of_imp fun h => h ▸ hpattern
    have hregistered : (history ++ [(pattern, identity)]).map (·.1) = registered ++ [pattern] :=
      List.map_append
    rw [← ofHistory_snoc]
    constructor
    · rw [size_ofHistory, size_ofHistory, hregistered]
      refine congrArg Finset.card (Finset.ext fun other => ?_)
      rw [List.mem_toFinset, List.mem_toFinset, hagain]
    · rw [(records_ofHistory _).starPatterns_eq, hrecords.starPatterns_eq, parents_snoc_of_mem hpattern,
        hregistered]
      simp only [hagain]
      rfl

/-- Two levels, the fallback and a single host; the second level is registered again, then the first. -/
theorem levels_listed_in_first_order :
    let history : History Nat := [(.below "c.com", 1), (.any, 2), (.below "b.com", 3), (.exact "x.b.com", 4)]
    let table := ofHistory history
    .below "b.com" ∈ history.map (·.1) ∧ .below "c.com" ∈ history.map (·.1) ∧
      (table.insert (.below "b.com") 5).size = 4 ∧
      (table.insert (.below "c.com") 5).starPatterns = [.below "c.com", .below "b.com", .any] := by
  intro history table
  obtain ⟨_, _, _, _, _, _, hagain⟩ := every_pattern_listed_once history
  have hb : .below "b.com" ∈ history.map (·.1) := by decide
  have hc : .below "c.com" ∈ history.map (·.1) := by decide
  refine ⟨hb, hc, ?_, ?_⟩
  · rw [(hagain _ hb 5).1]
    decide
  · rw [(hagain _ hc 5).2]
    decide

end IdentityTable

end TlsIdentity
