import TlsIdentity.Proofs.LiveIdentities
import TlsIdentity.Proofs.WrittenPatterns

/-!
# Patterns and what they cover

Two texts that stand for patterns cover the same hosts exactly if they stand for the same pattern. That equal
patterns cover alike is plain. For the converse, patterns that differ need a host that one of them covers and the
other does not. `sampleHost` is such a host: what covers it is its own pattern or a less narrow one, so of two
patterns that cover each other's samples each would be less narrow than the other. The sample must be its own
canonical form, since this is what patterns are compared with; it is if the pattern was read from a text. Of other
patterns the law is false: `exact "A"` and `exact "B"` cover no host at all. So a table that holds what was read
from texts tells its entries apart by what they cover, though it looks at the patterns alone.
-/

namespace TlsIdentity

namespace HostPattern

open HostName

variable {text other : String} {pattern otherPattern : HostPattern}

/-- The texts cover the same hosts. -/
def CoverAlike (text other : String) : Prop :=
  ∀ host, textCovers text host = textCovers other host

theorem CoverAlike.symm (h : CoverAlike text other) : CoverAlike other text :=
  fun host => (h host).symm

theorem textCovers_of_ofText? (h : ofText? text = some pattern) (host : String) :
    textCovers text host = pattern.covers (canonical host) := by
  rw [textCovers, h]

/-- What covers the same hosts as a pattern covers its samples. -/
theorem CoverAlike.covers_sampleHost (halike : CoverAlike text other) (h : ofText? text = some pattern)
    (hother : ofText? other = some otherPattern) (names : List String) :
    otherPattern.covers (pattern.sampleHost names) = true := by
  have hsample : canonical (pattern.sampleHost names) = pattern.sampleHost names :=
    (ofText?_eq_some_exact_iff.mp (ofText?_sampleHost h)).1
  have hsame := halike (pattern.sampleHost names)
  rw [textCovers_of_ofText? h, textCovers_of_ofText? hother, hsample] at hsame
  rw [← hsame]
  exact HostPattern.covers_sampleHost names pattern

/-- **Patterns that cover the same hosts are equal**: if they were not, each would be less narrow than the
    other. -/
theorem eq_of_coverAlike (h : ofText? text = some pattern) (hother : ofText? other = some otherPattern)
    (halike : CoverAlike text other) : pattern = otherPattern := by
  -- samples that differ from the names of both patterns, where these are single hosts
  let names := [pattern.toText, otherPattern.toText]
  have hname : ∀ name, pattern = .exact name → name ∈ names := by
    rintro name rfl
    exact List.mem_cons_self
  have hotherName : ∀ name, otherPattern = .exact name → name ∈ names := by
    rintro name rfl
    exact List.mem_cons_of_mem _ List.mem_cons_self
  rcases eq_or_lt_of_covers_sampleHost hotherName (halike.covers_sampleHost h hother names) with heq | hlt
  · exact heq.symm
  · rcases eq_or_lt_of_covers_sampleHost hname (halike.symm.covers_sampleHost hother h names) with
      heq | hgt
    · exact heq
    · exact absurd hgt (Nat.lt_asymm hlt)

theorem eq_iff_coverAlike (h : ofText? text = some pattern) (hother : ofText? other = some otherPattern) :
    pattern = otherPattern ↔ CoverAlike text other := by
  constructor
  · rintro rfl host
    rw [textCovers_of_ofText? h, textCovers_of_ofText? hother]
  · exact eq_of_coverAlike h hother

/-- Different patterns are told apart by some host. -/
theorem exists_covers_ne (h : ofText? text = some pattern) (hother : ofText? other = some otherPattern)
    (hne : pattern ≠ otherPattern) :
    ∃ host, pattern.covers (canonical host) ≠ otherPattern.covers (canonical host) := by
  have hdiffer : ¬ CoverAlike text other := fun halike => hne (eq_of_coverAlike h hother halike)
  obtain ⟨host, hhost⟩ := Classical.not_forall.mp hdiffer
  rw [textCovers_of_ofText? h, textCovers_of_ofText? hother] at hhost
  exact ⟨host, hhost⟩

end HostPattern

open HostPattern

/-- **Patterns are equal exactly if they cover the same hosts**, where they are read from texts. So a table of
    such patterns

    * never has two entries that cover the same hosts: of every two that it lists, some host is covered by one and
      not by the other;
    * never takes two for one: a registration replaces the identity of another text's pattern if the two texts
      cover the same hosts, and else leaves it as it is. -/
theorem patterns_equal_iff_cover_alike {α : Type} :
    (∀ text other pattern otherPattern, ofText text = .ok pattern → ofText other = .ok otherPattern →
      (pattern = otherPattern ↔ CoverAlike text other)) ∧
    (∀ history : History α, (∀ entry ∈ history, ∃ text, ofText text = .ok entry.1) →
      (IdentityTable.ofHistory history).patterns.Pairwise fun first later =>
        ∃ host, first.covers (HostName.canonical host) ≠ later.covers (HostName.canonical host)) ∧
    ∀ (table : IdentityTable α) identity text other pattern otherPattern,
      ofText text = .ok pattern → ofText other = .ok otherPattern →
      (CoverAlike text other → (table.insert pattern identity).identityOf? otherPattern = some identity) ∧
      (¬ CoverAlike text other →
        (table.insert pattern identity).identityOf? otherPattern = table.identityOf? otherPattern) := by
  simp only [ofText_eq_ok_iff]
  refine ⟨fun text other pattern otherPattern => eq_iff_coverAlike, ?_, ?_⟩
  · intro history htexts
    have hread : ∀ pattern ∈ (IdentityTable.ofHistory history).patterns, ∃ text, ofText? text = some pattern := by
      intro pattern hpattern
      rw [(IdentityTable.records_ofHistory history).mem_patterns_iff, List.mem_map] at hpattern
      obtain ⟨entry, hentry, rfl⟩ := hpattern
      exact htexts entry hentry
    have hdistinct := (IdentityTable.distinct_ofHistory history).nodup_patterns
    refine List.Pairwise.imp_of_mem (fun {first later} hfirst hlater hne => ?_) hdistinct
    obtain ⟨text, htext⟩ := hread first hfirst
    obtain ⟨other, hother⟩ := hread later hlater
    exact exists_covers_ne htext hother hne
  · intro table identity text other pattern otherPattern h hother
    rw [← eq_iff_coverAlike h hother, IdentityTable.identityOf?_insert]
    constructor
    · intro hsame
      rw [if_pos hsame.symm]
    · intro hne
      rw [if_neg fun hsame => hne hsame.symm]

/-- Two spellings of a level cover the same hosts, and a registration by one replaces what was registered by the
    other; the parent itself covers other hosts, and its entry stays. -/
theorem level_replaced_beside_parent :
    let history : History Nat := [(.below "a.com", 1), (.exact "a.com", 2)]
    let table := IdentityTable.ofHistory history
    CoverAlike "*.A.com." "*.a.COM" ∧ ¬ CoverAlike "*.A.com." "A.com" ∧
      (∃ host, (HostPattern.exact "a.com").covers (HostName.canonical host) ≠
        (HostPattern.below "a.com").covers (HostName.canonical host)) ∧
      (table.insert (.below "a.com") 3).identityOf? (.below "a.com") = some 3 ∧
      (table.insert (.below "a.com") 3).identityOf? (.exact "a.com") = some 2 := by
  intro history table
  have hlevel : ofText "*.A.com." = .ok (.below "a.com") := by decide +kernel
  have hagain : ofText "*.a.COM" = .ok (.below "a.com") := by decide +kernel
  have hparent : ofText "A.com" = .ok (.exact "a.com") := by decide +kernel
  obtain ⟨hequal, htold, hinsert⟩ := patterns_equal_iff_cover_alike (α := Nat)
  have halike : CoverAlike "*.A.com." "*.a.COM" := (hequal _ _ _ _ hlevel hagain).mp rfl
  have hdiffer : ¬ CoverAlike "*.A.com." "A.com" := by
    rw [← hequal _ _ _ _ hlevel hparent]
    decide
  have htexts : ∀ entry ∈ history, ∃ text, ofText text = .ok entry.1 := by
    simp only [history, List.forall_mem_cons]
    exact ⟨⟨_, hlevel⟩, ⟨_, hparent⟩, List.forall_mem_nil _⟩
  have hlisted : table.patterns = [.exact "a.com", .below "a.com"] := by decide +kernel
  have hpair := htold history htexts
  rw [show (IdentityTable.ofHistory history).patterns = _ from hlisted] at hpair
  refine ⟨halike, hdiffer, List.rel_of_pairwise_cons hpair List.mem_cons_self, ?_, ?_⟩
  · exact (hinsert table 3 _ _ _ _ hlevel hagain).1 halike
  · exact (hinsert table 3 _ _ _ _ hlevel hparent).2 hdiffer

end TlsIdentity
