import TlsIdentity.Proofs.CanonicalNames
import TlsIdentity.Proofs.PublishedMatching

/-!
# Names as lists of labels

What a pattern covers is meant of labels: those of the pattern and those of the host, one against the other.
`LabelsCover` says it so. The code compares texts, after one split at the first dot and without ever making a
list of labels. The two agree because a name and its labels determine each other (`labels_inj`), and because
what follows the first dot of a name has just the labels after the first (`afterFirstDot?_eq_some_iff`), however
many dots follow and wherever they stand.
-/

namespace TlsIdentity

/-! ## Names and their labels -/

namespace HostName

variable {name other : String}

theorem labels_ne_nil (name : String) : labels name ≠ [] :=
  List.splitOn_ne_nil '.' name.toList

/-- **A name and its labels determine each other.** -/
theorem labels_inj : labels name = labels other ↔ name = other := by
  constructor
  · intro h
    apply String.toList_inj.mp
    rw [toList_eq_intercalate_labels name, toList_eq_intercalate_labels other, h]
  · rintro rfl
    rfl

/-- A name without dots is its only label. -/
theorem labels_of_dot_notMem (h : '.' ∉ name.toList) : labels name = [name.toList] :=
  List.splitOn_eq_singleton h

/-- A label and a dot in front of a name are one label more in front of its labels. -/
theorem labels_of_toList_eq {label : List Char} (hlabel : '.' ∉ label)
    (h : name.toList = label ++ '.' :: other.toList) : labels name = label :: labels other := by
  rw [labels, h]
  exact List.splitOn_append_cons_self_of_not_mem hlabel other.toList

/-- What stands before the first dot is a label, and the others are those of the name after it. -/
theorem labels_of_splitFirst? {first after : List Char}
    (h : Text.splitFirst? '.' name.toList = some (first, after)) :
    labels name = first :: labels (String.ofList after) := by
  obtain ⟨htext, hfirst⟩ := Text.splitFirst?_eq_some_iff.mp h
  refine labels_of_toList_eq hfirst ?_
  rwa [String.toList_ofList]

/-- What has one label more than a name is the name with the label and a dot in front. -/
theorem toList_of_labels_eq_cons {label : List Char} (h : labels name = label :: labels other) :
    name.toList = label ++ '.' :: other.toList := by
  rw [toList_eq_intercalate_labels name, h, List.intercalate_cons_of_ne_nil (labels_ne_nil other),
    ← toList_eq_intercalate_labels, List.append_assoc, List.singleton_append]

theorem labels_star_append (parent : String) : labels ("*." ++ parent) = ['*'] :: labels parent := by
  refine labels_of_toList_eq (by decide) ?_
  rw [String.toList_append]
  rfl

/-- A canonical form is at most as long as the name. -/
theorem length_canonical_le (name : String) : (canonical name).toList.length ≤ name.toList.length := by
  rw [toList_canonical, List.length_map, dropFinalDot]
  split
  · rw [List.length_dropLast]
    exact Nat.sub_le _ 1
  · exact Nat.le_refl _

end HostName

/-! ## The law of labels -/

/-- The labels of a pattern cover those of a host. A star alone covers all labels; labels that do not begin
    with a star cover themselves; and a star in front of others covers these with one label in front, whichever
    it is. -/
inductive LabelsCover : List (List Char) → List (List Char) → Prop where
  | any (labels : List (List Char)) : LabelsCover [['*']] labels
  | exact {labels : List (List Char)} (hstar : labels.head? ≠ some ['*']) : LabelsCover labels labels
  | below (label : List Char) {labels : List (List Char)} (hlabels : labels ≠ []) :
    LabelsCover (['*'] :: labels) (label :: labels)

/-- What a star in front of other labels covers has one label in front of these. -/
theorem LabelsCover.of_star {labels covered : List (List Char)} (h : LabelsCover (['*'] :: labels) covered)
    (hlabels : labels ≠ []) : ∃ label, covered = label :: labels := by
  cases h with
  | any => exact absurd rfl hlabels
  | exact hstar => exact absurd rfl hstar
  | below label => exact ⟨label, rfl⟩

/-- Labels that do not begin with a star cover only themselves. -/
theorem LabelsCover.eq_of_head?_ne {labels covered : List (List Char)} (h : LabelsCover labels covered)
    (hstar : labels.head? ≠ some ['*']) : covered = labels := by
  cases h with
  | any | below => exact absurd rfl hstar
  | exact => rfl

namespace HostPattern

open HostName

variable {text host name parent : String}

/-- **What follows the first dot has the labels after the first.** -/
theorem afterFirstDot?_eq_some_iff :
    afterFirstDot? name = some parent ↔ ∃ label, labels name = label :: labels parent := by
  rw [afterFirstDot?]
  cases hsplit : Text.splitFirst? '.' name.toList with
  | none =>
    have hone := labels_of_dot_notMem (Text.splitFirst?_eq_none_iff.mp hsplit)
    constructor
    · intro h
      cases h
    · rintro ⟨label, hlabel⟩
      rw [hone, List.cons.injEq] at hlabel
      exact absurd hlabel.2.symm (labels_ne_nil parent)
  | some parts =>
    obtain ⟨first, after⟩ := parts
    have hlabels := labels_of_splitFirst? hsplit
    rw [Option.map_some, Option.some.injEq, ← labels_inj, hlabels]
    constructor
    · intro h
      exact ⟨first, congrArg _ h⟩
    · rintro ⟨label, hlabel⟩
      exact (List.cons.inj hlabel).2

theorem ofText?_eq_some_any_iff : ofText? text = some .any ↔ canonical text = anyText := by
  unfold ofText?
  dsimp only
  split
  · next hany => simp [hany]
  · next hany =>
    constructor
    · intro h
      split at h <;> split at h <;> cases h
    · intro h
      exact absurd h hany

theorem covers_exact_iff : (HostPattern.exact name).covers host = true ↔ name = host := by
  rw [covers, decide_eq_true_eq]

/-- A plain name does not begin with a star label. -/
theorem head?_labels_of_isPlain (h : isPlain name = true) : (labels name).head? ≠ some ['*'] := by
  intro hhead
  exact (isPlain_iff.mp h _ (List.mem_of_head? hhead)).2 List.mem_cons_self

/-- The pattern that a text stands for covers a name exactly if the text's labels cover the name's. -/
theorem covers_iff_labelsCover {pattern : HostPattern} (h : ofText? text = some pattern) :
    pattern.covers name = true ↔ LabelsCover (labels (canonical text)) (labels name) := by
  cases pattern with
  | any =>
    have hlabels : labels (canonical text) = [['*']] := by
      rw [ofText?_eq_some_any_iff.mp h]
      decide
    rw [hlabels]
    exact ⟨fun _ => .any _, fun _ => rfl⟩
  | exact own =>
    obtain ⟨hown, hplain⟩ := ofText?_eq_some_exact_iff.mp h
    have hhead := head?_labels_of_isPlain hplain
    rw [covers_exact_iff, hown]
    constructor
    · rintro rfl
      exact .exact hhead
    · exact fun hcover => labels_inj.mp (hcover.eq_of_head?_ne hhead).symm
  | below parent =>
    obtain ⟨hparent, _⟩ := ofText?_eq_some_below_iff.mp h
    rw [covers_below_iff, afterFirstDot?_eq_some_iff, hparent, labels_star_append]
    constructor
    · rintro ⟨label, hlabel⟩
      rw [hlabel]
      exact .below label (labels_ne_nil parent)
    · exact fun hcover => hcover.of_star (labels_ne_nil parent)

/-! ## Texts and hosts -/

/-- What a text with a star label in front of a name covers is the name with one label and a dot in front. -/
theorem toList_canonical_of_textCovers (htext : canonical text = "*." ++ parent)
    (h : textCovers text host = true) :
    ∃ label, labels (canonical host) = label :: labels parent ∧
      (canonical host).toList = label ++ '.' :: parent.toList := by
  obtain ⟨pattern, hpattern, hcovers⟩ := textCovers_iff.mp h
  have hcover := (covers_iff_labelsCover hpattern).mp hcovers
  rw [htext, labels_star_append] at hcover
  obtain ⟨label, hlabel⟩ := hcover.of_star (labels_ne_nil parent)
  exact ⟨label, hlabel, toList_of_labels_eq_cons hlabel⟩

/-- **A text covers a host exactly if it stands for a pattern and its labels cover the host's**, both in any
    spelling. So what has a star label in front of a name does not cover that name itself, nor a host with two
    more labels or with more than two, nor one whose text merely ends in the name, with no dot in front of it. -/
theorem covers_label_by_label (text host : String) :
    (textCovers text host = true ↔
      (ofText? text).isSome = true ∧ LabelsCover (labels (canonical text)) (labels (canonical host))) ∧
    ∀ parent, canonical text = "*." ++ parent →
      textCovers text parent = false ∧
      ((labels parent).length + 2 ≤ (labels (canonical host)).length → textCovers text host = false) ∧
      ∀ front, (canonical host).toList = front ++ parent.toList → front.getLast? ≠ some '.' →
        textCovers text host = false := by
  refine ⟨?_, fun parent htext => ⟨?_, ?_, ?_⟩⟩
  · rw [textCovers_iff]
    constructor
    · rintro ⟨pattern, hpattern, hcovers⟩
      exact ⟨Option.isSome_of_eq_some hpattern, (covers_iff_labelsCover hpattern).mp hcovers⟩
    · rintro ⟨hsome, hcover⟩
      obtain ⟨pattern, hpattern⟩ := Option.isSome_iff_exists.mp hsome
      exact ⟨pattern, hpattern, (covers_iff_labelsCover hpattern).mpr hcover⟩
  · refine Bool.eq_false_iff.mpr fun hcovers => ?_
    obtain ⟨label, _, hlist⟩ := toList_canonical_of_textCovers htext hcovers
    -- no canonical form is longer than the name
    have hlength := length_canonical_le parent
    rw [hlist, List.length_append, List.length_cons] at hlength
    omega
  · intro hmore
    refine Bool.eq_false_iff.mpr fun hcovers => ?_
    obtain ⟨label, hlabels, _⟩ := toList_canonical_of_textCovers htext hcovers
    rw [hlabels, List.length_cons] at hmore
    omega
  · intro front hfront hdot
    refine Bool.eq_false_iff.mpr fun hcovers => ?_
    obtain ⟨label, _, hlist⟩ := toList_canonical_of_textCovers htext hcovers
    rw [hlist, List.append_cons] at hfront
    obtain rfl := List.append_cancel_right hfront
    exact hdot List.getLast?_concat

/-- A level in another spelling covers a host with one more label, and neither its parent, nor a host with two
    more labels, nor one that merely ends in the parent's text. -/
theorem level_covers_one_label :
    textCovers "*.A.com." "X.a.COM" = true ∧ textCovers "*.A.com." "a.com" = false ∧
      textCovers "*.A.com." "y.x.a.com" = false ∧ textCovers "*.A.com." "xa.com" = false := by
  have hlevel : canonical "*.A.com." = "*." ++ "a.com" := by decide +kernel
  have hone := (covers_label_by_label "*.A.com." "X.a.COM").1
  have htwo := (covers_label_by_label "*.A.com." "y.x.a.com").2 "a.com" hlevel
  have hends := (covers_label_by_label "*.A.com." "xa.com").2 "a.com" hlevel
  have hpattern : labels (canonical "*.A.com.") = ['*'] :: labels "a.com" := by decide +kernel
  have hhost : labels (canonical "X.a.COM") = ['x'] :: labels "a.com" := by decide +kernel
  rw [hpattern, hhost] at hone
  exact ⟨hone.mpr ⟨by decide +kernel, .below ['x'] (labels_ne_nil _)⟩, htwo.1, htwo.2.1 (by decide +kernel),
    hends.2.2 ['x'] (by decide +kernel) (by decide)⟩

end HostPattern

end TlsIdentity
