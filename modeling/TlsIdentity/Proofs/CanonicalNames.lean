import TlsIdentity.HostName.Pattern

/-!
# Canonical names

What `canonical` does to the characters of a name, and which names it leaves alone. It is not
idempotent: `a..` becomes `a.`, which becomes `a`. It is on names that do not end in a dot, and so on
every name whose labels are plain. From this follows which texts stand for a single host: exactly those
whose canonical form is plain, and that form is the name of the host.
-/

namespace TlsIdentity

/-! ## Lower case -/

namespace HostName

theorem isUpper_iff {c : Char} : c.isUpper = true ↔ 65 ≤ c.toNat ∧ c.toNat ≤ 90 := by
  show decide (c.val ≥ 'A'.val ∧ c.val ≤ 'Z'.val) = true ↔ _
  simp [UInt32.le_iff_toNat_le, ← Char.toNat_val]

/-- Lower case moves letters by 32 and nothing else. -/
theorem toNat_toLower (c : Char) :
    c.toLower.toNat = if 65 ≤ c.toNat ∧ c.toNat ≤ 90 then c.toNat + 32 else c.toNat := by
  have hcase : (c.val ≥ 'A'.val ∧ c.val ≤ 'Z'.val) ↔ (65 ≤ c.toNat ∧ c.toNat ≤ 90) :=
    decide_eq_true_iff.symm.trans isUpper_iff
  unfold Char.toLower
  by_cases h : c.val ≥ 'A'.val ∧ c.val ≤ 'Z'.val
  · rw [dif_pos h, if_pos (hcase.mp h)]
    have hz := (hcase.mp h).2
    show (c.val + ('a'.val - 'A'.val)).toNat = c.toNat + 32
    rw [UInt32.toNat_add, Char.toNat_val, show ('a'.val - 'A'.val).toNat = 32 by decide]
    omega
  · rw [dif_neg h, if_neg (fun hc => h (hcase.mpr hc))]

theorem toLower_toLower (c : Char) : c.toLower.toLower = c.toLower := by
  apply Char.toNat_inj.mp
  have hc := toNat_toLower c
  rw [toNat_toLower c.toLower]
  split at hc <;> rw [if_neg (by omega)]

/-- No letter becomes a character below the letters, such as a dot or a star. -/
theorem toLower_eq_iff {c mark : Char} (hmark : mark.toNat < 65) : c.toLower = mark ↔ c = mark := by
  constructor
  · intro h
    have hnat : c.toLower.toNat = mark.toNat := by rw [h]
    rw [toNat_toLower] at hnat
    apply Char.toNat_inj.mp
    split at hnat <;> omega
  · intro h
    subst h
    apply Char.toNat_inj.mp
    rw [toNat_toLower, if_neg (by omega)]

/-- The characters that lower case leaves alone are those that are no capital letters. -/
theorem toLower_eq_self_iff {c : Char} : c.toLower = c ↔ c.isUpper = false := by
  rw [← Char.toNat_inj, toNat_toLower, ← Bool.not_eq_true, isUpper_iff]
  split <;> omega

/-! ## The final dot -/

theorem dropFinalDot_of_getLast?_ne {name : List Char} (h : name.getLast? ≠ some '.') :
    dropFinalDot name = name := by
  rw [dropFinalDot, if_neg h]

theorem getLast?_map_toLower_eq_dot_iff {name : List Char} :
    (name.map Char.toLower).getLast? = some '.' ↔ name.getLast? = some '.' := by
  rw [List.getLast?_map, Option.map_eq_some_iff]
  constructor
  · rintro ⟨c, hc, hlow⟩
    rw [hc, (toLower_eq_iff (by decide)).mp hlow]
  · intro h
    exact ⟨'.', h, by decide⟩

/-! ## The canonical form -/

theorem toList_canonical (name : String) :
    (canonical name).toList = (dropFinalDot name.toList).map Char.toLower := by
  rw [canonical, String.toList_ofList]

/-- **A canonical form that does not end in a dot is a fixed point.** -/
theorem canonical_canonical {name : String} (h : (canonical name).toList.getLast? ≠ some '.') :
    canonical (canonical name) = canonical name := by
  apply String.toList_inj.mp
  rw [toList_canonical (canonical name), dropFinalDot_of_getLast?_ne h, toList_canonical, List.map_map]
  exact List.map_congr_left (fun c _ => toLower_toLower c)

theorem toLower_of_mem_canonical {name : String} {c : Char} (h : c ∈ (canonical name).toList) :
    c.toLower = c := by
  rw [toList_canonical, List.mem_map] at h
  obtain ⟨own, _, rfl⟩ := h
  exact toLower_toLower own

/-- A name without capital letters and without a final dot is its own canonical form. -/
theorem canonical_eq_self {name : String} (hdot : name.toList.getLast? ≠ some '.')
    (hlower : ∀ c ∈ name.toList, c.toLower = c) : canonical name = name := by
  apply String.toList_inj.mp
  rw [toList_canonical, dropFinalDot_of_getLast?_ne hdot]
  exact (List.map_congr_left hlower).trans (List.map_id _)

/-! ## Plain names -/

theorem isPlain_iff {name : String} :
    isPlain name = true ↔ ∀ label ∈ labels name, label ≠ [] ∧ '*' ∉ label := by
  simp [isPlain, isPlainLabel]

/-- A name is its labels with dots between. -/
theorem toList_eq_intercalate_labels (name : String) :
    name.toList = ['.'].intercalate (labels name) :=
  (List.intercalate_splitOn '.').symm

/-- A character other than the separator comes from one of the pieces. -/
theorem exists_mem_of_mem_intercalate {c separator : Char} (hne : c ≠ separator)
    {pieces : List (List Char)} (h : c ∈ [separator].intercalate pieces) :
    ∃ piece ∈ pieces, c ∈ piece := by
  induction pieces with
  | nil => exact absurd h (by simp)
  | cons first rest ih =>
    by_cases hrest : rest = []
    · subst hrest
      rw [List.intercalate_singleton] at h
      exact ⟨first, List.mem_cons_self, h⟩
    · rw [List.intercalate_cons_of_ne_nil hrest, List.mem_append, List.mem_append,
        List.mem_singleton] at h
      rcases h with (h | h) | h
      · exact ⟨first, List.mem_cons_self, h⟩
      · exact absurd h hne
      · obtain ⟨piece, hpiece, hc⟩ := ih h
        exact ⟨piece, List.mem_cons_of_mem first hpiece, hc⟩

/-- The label after a final dot is empty. -/
theorem nil_mem_splitOn_of_getLast? {name : List Char} (h : name.getLast? = some '.') :
    [] ∈ name.splitOn '.' := by
  obtain ⟨front, rfl⟩ := List.getLast?_eq_some_iff.mp h
  rw [List.splitOn_append_cons_self, List.splitOn_nil]
  exact List.mem_append_right _ List.mem_cons_self

/-- No label of a plain name is empty, so a plain name has no final dot. -/
theorem getLast?_ne_dot_of_isPlain {name : String} (h : isPlain name = true) :
    name.toList.getLast? ≠ some '.' := by
  intro hlast
  exact (isPlain_iff.mp h [] (nil_mem_splitOn_of_getLast? hlast)).1 rfl

theorem star_notMem_of_isPlain {name : String} (h : isPlain name = true) : '*' ∉ name.toList := by
  intro hstar
  rw [toList_eq_intercalate_labels] at hstar
  obtain ⟨label, hlabel, hmem⟩ := exists_mem_of_mem_intercalate (by decide) hstar
  exact (isPlain_iff.mp h label hlabel).2 hmem

/-- **Plain canonical names are fixed points**, so a stored name is found under its own spelling. -/
theorem canonical_canonical_of_isPlain {name : String} (h : isPlain (canonical name) = true) :
    canonical (canonical name) = canonical name :=
  canonical_canonical (getLast?_ne_dot_of_isPlain h)

end HostName

/-! ## Texts that stand for a single host -/

namespace HostPattern

theorem parent?_eq_some_iff {text parent : String} :
    parent? text = some parent ↔ text = "*." ++ parent := by
  have hstar : ("*." : String).toList = ['*', '.'] := by decide
  unfold parent?
  constructor
  · intro h
    split at h
    · next rest htext =>
      injection h with h
      subst h
      apply String.toList_inj.mp
      rw [htext, String.toList_append, hstar, String.toList_ofList]
      rfl
    · cases h
  · intro h
    subst h
    rw [String.toList_append, hstar]
    simp

/-- **A text stands for a single host exactly if its canonical form is plain**, and then the host is
    known by that form. -/
theorem ofText?_eq_some_exact_iff {text name : String} :
    ofText? text = some (.exact name) ↔
      HostName.canonical text = name ∧ HostName.isPlain name = true := by
  unfold ofText?
  constructor
  · intro h
    dsimp only at h
    split at h
    · cases h
    · split at h
      · split at h <;> cases h
      · split at h
        · next hplain =>
          injection h with h
          injection h with h
          exact ⟨h, h ▸ hplain⟩
        · cases h
  · rintro ⟨hname, hplain⟩
    have hstar := HostName.star_notMem_of_isPlain hplain
    -- a plain name holds no star, so the two tests that come first fail
    have hany : name ≠ anyText := by
      rintro rfl
      exact hstar (by decide)
    have hparent : parent? name = none := by
      cases hp : parent? name with
      | none => rfl
      | some parent =>
        rw [parent?_eq_some_iff.mp hp, String.toList_append] at hstar
        exact absurd (List.mem_append_left _ (by decide)) hstar
    simp only [hname, if_neg hany, hparent, hplain, if_true]

/-- A text stands for the hosts below a name exactly if its canonical form is a star label before that name,
    which is plain. -/
theorem ofText?_eq_some_below_iff {text parent : String} :
    ofText? text = some (.below parent) ↔
      HostName.canonical text = "*." ++ parent ∧ HostName.isPlain parent = true := by
  unfold ofText?
  constructor
  · intro h
    dsimp only at h
    split at h
    · cases h
    · split at h
      · next own hparent =>
        split at h
        · next hplain =>
          cases h
          exact ⟨parent?_eq_some_iff.mp hparent, hplain⟩
        · cases h
      · split at h <;> cases h
  · rintro ⟨hname, hplain⟩
    have hany : HostName.canonical text ≠ anyText := by
      intro hany
      have hlength := congrArg (fun name => name.toList.length) (hname.symm.trans hany)
      simp [anyText] at hlength
    simp only [if_neg hany, parent?_eq_some_iff.mpr hname, hplain, if_true]

/-- A name under which a single host is stored stands for that host again. -/
theorem ofText?_of_eq_some_exact {text name : String} (h : ofText? text = some (.exact name)) :
    ofText? name = some (.exact name) := by
  obtain ⟨rfl, hplain⟩ := ofText?_eq_some_exact_iff.mp h
  exact ofText?_eq_some_exact_iff.mpr ⟨HostName.canonical_canonical_of_isPlain hplain, hplain⟩

/-- Whether `text` stands for a single host. -/
def isSingleHost (text : String) : Bool :=
  match ofText? text with
  | some (.exact _) => true
  | _ => false

theorem isSingleHost_iff {text : String} :
    isSingleHost text = true ↔ ofText? text = some (.exact (HostName.canonical text)) := by
  unfold isSingleHost
  split
  · next name h =>
    rw [h, (ofText?_eq_some_exact_iff.mp h).1]
    simp
  · next h =>
    constructor
    · intro hc
      cases hc
    · intro hc
      exact absurd hc (h _)

end HostPattern

end TlsIdentity
