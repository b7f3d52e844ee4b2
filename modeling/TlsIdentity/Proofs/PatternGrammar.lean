import TlsIdentity.Proofs.Labels

/-!
# The grammar of patterns

A text is read as a pattern in three steps: a star alone is every host, a star and a dot in front are set aside,
and what is left must be plain. All the same the texts that are accepted have one grammar, which can be told by
their labels (`IsPatternLabels`): no label is empty, and no label holds a star but the first, which may be a star
and nothing else. The two texts that are looked for first are those whose first label is a star, without and with
labels after it. The final dot needs no rule of its own, since it is gone from the canonical form; a second one
leaves an empty label.
-/

namespace TlsIdentity

/-! ## Names from labels -/

namespace HostName

variable {name : String}

/-- The name with these labels. -/
def joined (labels : List (List Char)) : String :=
  String.ofList (['.'].intercalate labels)

theorem joined_labels (name : String) : joined (labels name) = name := by
  rw [joined, ← toList_eq_intercalate_labels, String.ofList_toList]

/-- The labels after the first are those of a name, if there are any. -/
theorem exists_labels_eq_of_cons {label : List Char} {rest : List (List Char)}
    (h : labels name = label :: rest) (hrest : rest ≠ []) : ∃ parent, labels parent = rest := by
  cases hsplit : Text.splitFirst? '.' name.toList with
  | none =>
    have hone := labels_of_dot_notMem (Text.splitFirst?_eq_none_iff.mp hsplit)
    rw [h, List.cons.injEq] at hone
    exact absurd hone.2 hrest
  | some parts =>
    obtain ⟨first, after⟩ := parts
    have hlabels := labels_of_splitFirst? hsplit
    rw [h, List.cons.injEq] at hlabels
    exact ⟨String.ofList after, hlabels.2.symm⟩

end HostName

/-! ## The grammar -/

/-- The labels of a text that stands for a pattern. -/
structure IsPatternLabels (labels : List (List Char)) : Prop where
  /-- No label is empty. -/
  nil_notMem : [] ∉ labels
  /-- A star in the first label is all of it. -/
  star_alone : ∀ label ∈ labels.head?, '*' ∈ label → label = ['*']
  /-- The other labels hold no star. -/
  star_notMem : ∀ label ∈ labels.tail, '*' ∉ label

instance (labels : List (List Char)) : Decidable (IsPatternLabels labels) :=
  decidable_of_iff
    ([] ∉ labels ∧ (∀ label ∈ labels.head?, '*' ∈ label → label = ['*']) ∧
      ∀ label ∈ labels.tail, '*' ∉ label)
    ⟨fun ⟨hnil, halone, hstar⟩ => ⟨hnil, halone, hstar⟩,
      fun h => ⟨h.nil_notMem, h.star_alone, h.star_notMem⟩⟩

namespace IsPatternLabels

open HostName

variable {name : String}

/-- After a star label the others are those of a plain name. -/
theorem star_cons_iff : IsPatternLabels (['*'] :: labels name) ↔ isPlain name = true := by
  rw [isPlain_iff]
  constructor
  · intro h label hlabel
    refine ⟨?_, h.star_notMem label hlabel⟩
    rintro rfl
    exact h.nil_notMem (List.mem_cons_of_mem _ hlabel)
  · intro h
    refine ⟨?_, ?_, fun label hlabel => (h label hlabel).2⟩
    · intro hnil
      rcases List.mem_cons.mp hnil with hnil | hnil
      · cases hnil
      · exact (h [] hnil).1 rfl
    · intro label hlabel _
      exact (Option.some.inj hlabel).symm

/-- Labels that do not begin with a star label are those of a plain name. -/
theorem iff_of_head?_ne (hhead : (labels name).head? ≠ some ['*']) :
    IsPatternLabels (labels name) ↔ isPlain name = true := by
  rw [isPlain_iff]
  constructor
  · intro h label hlabel
    constructor
    · rintro rfl
      exact h.nil_notMem hlabel
    · intro hstar
      cases hlabels : labels name with
      | nil => exact labels_ne_nil name hlabels
      | cons first rest =>
        rw [hlabels] at h hhead hlabel
        rcases List.mem_cons.mp hlabel with rfl | hrest
        · exact hhead (congrArg some (h.star_alone label rfl hstar))
        · exact h.star_notMem label hrest hstar
  · intro h
    refine ⟨fun hnil => (h [] hnil).1 rfl, ?_, ?_⟩
    · intro label hlabel hstar
      exact absurd hstar (h label (List.mem_of_head? hlabel)).2
    · intro label hlabel
      exact (h label (List.mem_of_mem_tail hlabel)).2

end IsPatternLabels

/-! ## Texts -/

namespace HostPattern

open HostName

variable {text name parent : String} {pattern : HostPattern} {error : ConfigError}

theorem ofText_eq_ok_iff : ofText text = .ok pattern ↔ ofText? text = some pattern := by
  unfold ofText
  cases ofText? text <;> simp

theorem ofText_eq_error_iff :
    ofText text = .error error ↔ ofText? text = none ∧ error = .invalidHost text := by
  unfold ofText
  cases ofText? text <;> simp [eq_comm]

theorem canonical_eq_anyText_iff : canonical text = anyText ↔ labels (canonical text) = [['*']] := by
  have hstar : labels anyText = [['*']] := by decide
  rw [← hstar, labels_inj]

/-- A text with a star label in front of a name has the star label and then those of the name. -/
theorem canonical_eq_star_append_iff :
    canonical text = "*." ++ parent ↔ labels (canonical text) = ['*'] :: labels parent := by
  rw [← labels_star_append, labels_inj]

/-- What stands for a pattern has the grammar. -/
theorem isPatternLabels_of_ofText? (h : ofText? text = some pattern) :
    IsPatternLabels (labels (canonical text)) := by
  cases pattern with
  | any =>
    rw [canonical_eq_anyText_iff.mp (ofText?_eq_some_any_iff.mp h)]
    decide
  | exact name =>
    obtain ⟨hname, hplain⟩ := ofText?_eq_some_exact_iff.mp h
    rw [hname]
    exact (IsPatternLabels.iff_of_head?_ne (head?_labels_of_isPlain hplain)).mpr hplain
  | below parent =>
    obtain ⟨hparent, hplain⟩ := ofText?_eq_some_below_iff.mp h
    rw [canonical_eq_star_append_iff.mp hparent]
    exact IsPatternLabels.star_cons_iff.mpr hplain

/-- What has the grammar stands for a pattern. -/
theorem exists_pattern_of_isPatternLabels (h : IsPatternLabels (labels (canonical text))) :
    ∃ pattern, ofText? text = some pattern := by
  by_cases hhead : (labels (canonical text)).head? = some ['*']
  · obtain ⟨rest, hlabels⟩ := List.head?_eq_some_iff.mp hhead
    by_cases hrest : rest = []
    · rw [hrest] at hlabels
      exact ⟨.any, ofText?_eq_some_any_iff.mpr (canonical_eq_anyText_iff.mpr hlabels)⟩
    · -- the labels after the star are those of the level's parent
      obtain ⟨parent, rfl⟩ := exists_labels_eq_of_cons hlabels hrest
      rw [hlabels] at h
      exact ⟨.below parent, ofText?_eq_some_below_iff.mpr
        ⟨canonical_eq_star_append_iff.mpr hlabels, IsPatternLabels.star_cons_iff.mp h⟩⟩
  · exact ⟨.exact (canonical text), ofText?_eq_some_exact_iff.mpr
      ⟨rfl, (IsPatternLabels.iff_of_head?_ne hhead).mp h⟩⟩

/-- **A text stands for a pattern exactly if its labels have the grammar.** -/
theorem ofText?_eq_none_iff : ofText? text = none ↔ ¬ IsPatternLabels (labels (canonical text)) := by
  rw [Option.eq_none_iff_forall_ne_some]
  constructor
  · intro hnone h
    obtain ⟨pattern, hpattern⟩ := exists_pattern_of_isPatternLabels h
    exact hnone pattern hpattern
  · intro h pattern hpattern
    exact h (isPatternLabels_of_ofText? hpattern)

/-- **What is read from a text, by its labels.** For every text, in any spelling:

    * it is accepted exactly if no label is empty and no label holds a star but the first, which may be a star
      and nothing else;
    * it stands for every host exactly if its only label is the star, for a level exactly if others follow the
      star, which joined by dots are the parent, and else, if it is accepted, for the single host of its
      canonical form;
    * if it is not accepted, the error keeps it as it was given. -/
theorem texts_read_by_grammar (text : String) :
    ((∃ pattern, ofText text = .ok pattern) ↔ IsPatternLabels (labels (canonical text))) ∧
    (ofText text = .ok .any ↔ labels (canonical text) = [['*']]) ∧
    (∀ parent, ofText text = .ok (.below parent) ↔
      IsPatternLabels (labels (canonical text)) ∧
        ∃ rest, rest ≠ [] ∧ labels (canonical text) = ['*'] :: rest ∧ parent = joined rest) ∧
    (∀ name, ofText text = .ok (.exact name) ↔
      IsPatternLabels (labels (canonical text)) ∧
        (labels (canonical text)).head? ≠ some ['*'] ∧ name = canonical text) ∧
    ∀ error, ofText text = .error error ↔
      ¬ IsPatternLabels (labels (canonical text)) ∧ error = .invalidHost text := by
  simp only [ofText_eq_ok_iff, ofText_eq_error_iff]
  refine ⟨⟨?_, exists_pattern_of_isPatternLabels⟩, ?_, fun parent => ⟨?_, ?_⟩, fun name => ⟨?_, ?_⟩, ?_⟩
  · rintro ⟨pattern, hpattern⟩
    exact isPatternLabels_of_ofText? hpattern
  · rw [ofText?_eq_some_any_iff, canonical_eq_anyText_iff]
  · intro hbelow
    have hlabels := canonical_eq_star_append_iff.mp (ofText?_eq_some_below_iff.mp hbelow).1
    exact ⟨isPatternLabels_of_ofText? hbelow, labels parent, labels_ne_nil parent, hlabels,
      (joined_labels parent).symm⟩
  · rintro ⟨h, rest, hrest, hlabels, rfl⟩
    obtain ⟨parent, rfl⟩ := exists_labels_eq_of_cons hlabels hrest
    rw [hlabels, IsPatternLabels.star_cons_iff] at h
    rw [joined_labels]
    exact ofText?_eq_some_below_iff.mpr ⟨canonical_eq_star_append_iff.mpr hlabels, h⟩
  · intro hexact
    obtain ⟨rfl, hplain⟩ := ofText?_eq_some_exact_iff.mp hexact
    exact ⟨isPatternLabels_of_ofText? hexact, head?_labels_of_isPlain hplain, rfl⟩
  · rintro ⟨h, hhead, rfl⟩
    exact ofText?_eq_some_exact_iff.mpr ⟨rfl, (IsPatternLabels.iff_of_head?_ne hhead).mp h⟩
  · intro error
    rw [ofText?_eq_none_iff]

/-- Stars and dots in the places where the three steps of reading meet. -/
example : (["*.", "*..", ".", "..", "*.*", "**", "a.*", "*.a."].map fun text =>
    decide (IsPatternLabels (labels (canonical text)))) =
      [true, false, false, false, false, false, false, true] := by decide

end HostPattern

end TlsIdentity
