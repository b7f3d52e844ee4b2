import TlsIdentity.Proofs.TableHistory

/-!
# The order of registrations

Look-up tries the levels of a table one after the other, in the order in which they were registered, and
yet the order never decides. What follows the first dot of a host is one text, so one parent can hold the
host, and a table has each parent once: at most one level fits, and trying the others changes nothing.
So whom a history presents can be said without an order (`History.resolve?_eq`), and two histories that
agree on the last registration of every pattern make tables of the same answers and the same size.
-/

namespace TlsIdentity

/-! ## Distinct names -/

namespace Entries

variable {α : Type} {entries : Entries α} {name : String} {value : α}

theorem isSome_get?_iff : (entries.get? name).isSome = true ↔ name ∈ entries.names := by
  rw [get?, List.lookup_isSome_iff, names, List.mem_map]
  constructor
  · rintro ⟨entry, hentry, hname⟩
    exact ⟨entry, hentry, (eq_of_beq hname).symm⟩
  · rintro ⟨entry, hentry, rfl⟩
    exact ⟨entry, hentry, beq_self_eq_true _⟩

/-- Writing keeps the names distinct: a name that is there is not added again. -/
theorem nodup_names_put (h : entries.names.Nodup) : (entries.put name value).names.Nodup := by
  rw [names_put]
  by_cases hmem : name ∈ entries.names
  · rwa [if_pos hmem]
  · rw [if_neg hmem]
    refine List.nodup_append.mpr ⟨h, List.pairwise_singleton _ name, ?_⟩
    rintro other hother _ hname rfl
    exact hmem (List.mem_singleton.mp hname ▸ hother)

/-- Where one name at most fits and the names are distinct, one entry at most fits. -/
theorem length_filter_le_one {fits : String → Bool} (h : entries.names.Nodup)
    (hone : ∀ name other, fits name = true → fits other = true → name = other) :
    (entries.filter fun entry => fits entry.1).length ≤ 1 := by
  induction entries with
  | nil => exact Nat.zero_le 1
  | cons entry rest ih =>
    obtain ⟨hfirst, hrest⟩ := List.nodup_cons.mp h
    cases hfits : fits entry.1 with
    | false =>
      rw [List.filter_cons, hfits, if_neg Bool.false_ne_true]
      exact ih hrest
    | true =>
      -- another entry that fits would have the first one's name
      have hnone : (rest.filter fun entry => fits entry.1) = [] := by
        refine List.filter_eq_nil_iff.mpr fun other hother hother_fits => hfirst ?_
        have hname : entry.1 = other.1 := hone _ _ hfits hother_fits
        exact List.mem_map.mpr ⟨other, hother, hname.symm⟩
      rw [List.filter_cons, hfits, if_pos rfl, hnone]
      exact Nat.le_refl 1

/-- Distinct names make a list as long as the set of its names. -/
theorem length_eq_of_names {others : Entries α} (h : entries.names.Nodup) (hothers : others.names.Nodup)
    (hsame : ∀ name, name ∈ entries.names ↔ name ∈ others.names) : entries.length = others.length := by
  have hperm := ((List.perm_ext_iff_of_nodup h hothers).mpr hsame).length_eq
  rwa [names, names, List.length_map, List.length_map] at hperm

end Entries

/-! ## One level at most -/

namespace HostPattern

theorem covers_below_iff {parent host : String} :
    (HostPattern.below parent).covers host = true ↔ afterFirstDot? host = some parent := by
  rw [covers, decide_eq_true_eq]

/-- A host is directly below one name only. -/
theorem parent_unique {parent other host : String} (h : (HostPattern.below parent).covers host = true)
    (hother : (HostPattern.below other).covers host = true) : parent = other := by
  rw [covers_below_iff] at h hother
  exact Option.some.inj (h.symm.trans hother)

end HostPattern

/-! ## Histories without order -/

namespace History

variable {α : Type} {history first second : History α} {pattern : HostPattern}

theorem lastFor_eq_none_iff : lastFor history pattern = none ↔ pattern ∉ history.map (·.1) := by
  rw [← isSome_lastFor_iff, Bool.not_eq_true, Option.isSome_eq_false_iff, Option.isNone_iff_eq_none]

/-- **Look-up without order.** The last registration of the host's own name, or of the one level that
    can hold it, or of the fallback. -/
theorem resolve?_eq (history : History α) (host : String) :
    history.resolve? host =
      (lastFor history (.exact (HostName.canonical host)) <|>
        ((HostPattern.afterFirstDot? (HostName.canonical host)).bind fun parent =>
          lastFor history (.below parent)) <|>
        lastFor history .any) := by
  rw [resolve?]
  generalize HostName.canonical host = name
  cases lastFor history (.exact name) with
  | some identity => rfl
  | none =>
    cases hfind : (parents history).find? fun parent => (HostPattern.below parent).covers name with
    | some parent =>
      have hcovers : (HostPattern.below parent).covers name = true :=
        List.find?_some (p := fun parent => (HostPattern.below parent).covers name) hfind
      have hafter := HostPattern.covers_below_iff.mp hcovers
      have hmem := mem_parents_iff.mp (List.mem_of_find?_eq_some hfind)
      obtain ⟨identity, hidentity⟩ := Option.isSome_iff_exists.mp (isSome_lastFor_iff.mpr hmem)
      rw [hafter]
      simp only [Option.bind_some, hidentity]
      rfl
    | none =>
      -- the level that could hold the host is not registered
      have hlevel : ((HostPattern.afterFirstDot? name).bind fun parent =>
          lastFor history (.below parent)) = none := by
        refine Option.bind_eq_none_iff.mpr fun parent hafter => lastFor_eq_none_iff.mpr fun hmem => ?_
        have hcovers : (HostPattern.below parent).covers name = true :=
          HostPattern.covers_below_iff.mpr hafter
        exact List.find?_eq_none.mp hfind parent (mem_parents_iff.mpr hmem) hcovers
      rw [hlevel]
      rfl

/-- Two histories agree: they register the same patterns, and each of these has the same identity in its
    last registration. -/
structure Agree (first second : History α) : Prop where
  patterns : ∀ pattern, pattern ∈ first.map (·.1) ↔ pattern ∈ second.map (·.1)
  lasts : ∀ pattern ∈ first.map (·.1), lastFor first pattern = lastFor second pattern

theorem Agree.lastFor_eq (h : Agree first second) (pattern : HostPattern) :
    lastFor first pattern = lastFor second pattern := by
  by_cases hmem : pattern ∈ first.map (·.1)
  · exact h.lasts pattern hmem
  · rw [lastFor_eq_none_iff.mpr hmem, lastFor_eq_none_iff.mpr fun hc => hmem ((h.patterns pattern).mpr hc)]

theorem Agree.resolve?_eq (h : Agree first second) (host : String) :
    first.resolve? host = second.resolve? host := by
  simp only [History.resolve?_eq, h.lastFor_eq]

end History

/-! ## Tables -/

namespace IdentityTable

open History

variable {α : Type} {table : IdentityTable α}

/-- The table has every single host and every level once. -/
structure Distinct (table : IdentityTable α) : Prop where
  exact_names : table.exact.names.Nodup
  below_names : table.below.names.Nodup

theorem Distinct.insert (h : Distinct table) (pattern : HostPattern) (identity : α) :
    Distinct (table.insert pattern identity) := by
  cases pattern with
  | any => exact ⟨h.exact_names, h.below_names⟩
  | exact name => exact ⟨Entries.nodup_names_put h.exact_names, h.below_names⟩
  | below parent => exact ⟨h.exact_names, Entries.nodup_names_put h.below_names⟩

/-- **Every table has every pattern once**, however often it was registered. -/
theorem distinct_ofHistory (history : History α) : Distinct (ofHistory history) := by
  induction history using List.reverseRecOn with
  | nil => exact ⟨List.nodup_nil, List.nodup_nil⟩
  | append_singleton history entry ih =>
    rw [ofHistory, List.foldl_append]
    exact ih.insert entry.1 entry.2

/-- At most one level of a table holds a host. -/
theorem Distinct.length_holders_le_one (h : Distinct table) (host : String) :
    (table.below.filter fun entry => (HostPattern.below entry.1).covers host).length ≤ 1 :=
  Entries.length_filter_le_one h.below_names fun _ _ => HostPattern.parent_unique

theorem Records.mem_exact_names_iff {history : History α} (h : Records table history) (name : String) :
    name ∈ table.exact.names ↔ .exact name ∈ history.map (·.1) := by
  rw [← Entries.isSome_get?_iff, h.exact_get?, isSome_lastFor_iff]

theorem Records.mem_below_names_iff {history : History α} (h : Records table history) (parent : String) :
    parent ∈ table.below.names ↔ .below parent ∈ history.map (·.1) := by
  rw [h.below_names, mem_parents_iff]

/-- Tables whose histories agree have the same size: each store holds the same names, each once. -/
theorem size_eq_of_agree {first second : History α} (h : Agree first second) :
    (ofHistory first).size = (ofHistory second).size := by
  have hfirst := records_ofHistory first
  have hsecond := records_ofHistory second
  have hexact : (ofHistory first).exact.length = (ofHistory second).exact.length := by
    refine Entries.length_eq_of_names (distinct_ofHistory first).exact_names
      (distinct_ofHistory second).exact_names fun name => ?_
    rw [hfirst.mem_exact_names_iff, hsecond.mem_exact_names_iff]
    exact h.patterns (.exact name)
  have hbelow : (ofHistory first).below.length = (ofHistory second).below.length := by
    refine Entries.length_eq_of_names (distinct_ofHistory first).below_names
      (distinct_ofHistory second).below_names fun parent => ?_
    rw [hfirst.mem_below_names_iff, hsecond.mem_below_names_iff]
    exact h.patterns (.below parent)
  have hfallback : (ofHistory first).fallback = (ofHistory second).fallback := by
    rw [hfirst.fallback_eq, hsecond.fallback_eq, h.lastFor_eq]
  rw [size, size, hexact, hbelow, hfallback]

/-- **The order of registrations never decides.** At most one level of a table holds a given host; and
    histories that register the same patterns, each with the same identity in its last registration, make
    tables that present the same identity to every host and are of the same size. -/
theorem registration_order_never_decides :
    (∀ (history : History α) (host : String), ((ofHistory history).below.filter fun entry =>
      (HostPattern.below entry.1).covers host).length ≤ 1) ∧
    ∀ first second : History α, Agree first second →
      (∀ host, (ofHistory first).find? host = (ofHistory second).find? host) ∧
        (ofHistory first).size = (ofHistory second).size := by
  constructor
  · intro history host
    exact (distinct_ofHistory history).length_holders_le_one host
  · intro first second h
    refine ⟨fun host => ?_, size_eq_of_agree h⟩
    rw [(records_ofHistory first).find?_eq, (records_ofHistory second).find?_eq, h.resolve?_eq]

/-- Two levels, an exact host and the fallback, registered in two orders and some of them twice. A host of the
    first level is presented that level's identity either way. -/
theorem order_reversed_and_repeated :
    let first : History Nat := [(.below "b.com", 1), (.any, 2), (.exact "x.b.com", 3), (.below "c.com", 4)]
    let second : History Nat := [(.below "c.com", 4), (.exact "x.b.com", 5), (.below "b.com", 1),
      (.exact "x.b.com", 3), (.any, 2)]
    Agree first second ∧ (ofHistory first).find? "Y.b.com." = some 1 ∧
      (ofHistory second).find? "Y.b.com." = some 1 ∧
      (ofHistory first).size = (ofHistory second).size := by
  intro first second
  have hagree : Agree first second := by
    refine ⟨fun pattern => ?_, ?_⟩
    · simp only [first, second, List.map_cons, List.map_nil, List.mem_cons, List.not_mem_nil, or_false]
      tauto
    · simp only [first, second, List.map_cons, List.map_nil, List.forall_mem_cons]
      decide
  obtain ⟨hfind, hsize⟩ := registration_order_never_decides.2 first second hagree
  have hlevel : (ofHistory first).find? "Y.b.com." = some 1 := by decide
  exact ⟨hagree, hlevel, (hfind "Y.b.com.").symm.trans hlevel, hsize⟩

end IdentityTable

end TlsIdentity
