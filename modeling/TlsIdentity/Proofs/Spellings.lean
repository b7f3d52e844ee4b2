import Mathlib.Data.List.Forall2
import TlsIdentity.Proofs.CanonicalNames

/-!
# Spellings of one name

Two texts spell one name if they differ only in the case of ASCII letters and in a dot that is added to a
text without one at its end. `canonical` brings together exactly these: it removes one final dot, so of two
texts with the same canonical form either both end in a dot, or neither does, or one is the other with a
dot added. A second final dot and the case of other letters still tell names apart. What a text stands for
as a pattern is read off its canonical form, so it is the same for all spellings.
-/

namespace TlsIdentity

namespace HostName

variable {name other : String}

/-! ## The final dot and the case of letters -/

theorem dropFinalDot_snoc (front : List Char) : dropFinalDot (front ++ ['.']) = front := by
  unfold dropFinalDot
  rw [if_pos List.getLast?_concat, List.dropLast_concat]

/-- Two texts are alike without their final dots exactly if they are alike, or one of them is the other with
    a dot added that it did not have. -/
theorem dropFinalDot_eq_iff {text text' : List Char} :
    dropFinalDot text = dropFinalDot text' ↔
      text = text' ∨ (text.getLast? ≠ some '.' ∧ text' = text ++ ['.']) ∨
        (text'.getLast? ≠ some '.' ∧ text = text' ++ ['.']) := by
  constructor
  · intro h
    by_cases hdot : text.getLast? = some '.'
    · obtain ⟨front, rfl⟩ := List.getLast?_eq_some_iff.mp hdot
      rw [dropFinalDot_snoc] at h
      by_cases hdot' : text'.getLast? = some '.'
      · obtain ⟨front', rfl⟩ := List.getLast?_eq_some_iff.mp hdot'
        rw [dropFinalDot_snoc] at h
        exact .inl (by rw [h])
      · rw [dropFinalDot_of_getLast?_ne hdot'] at h
        exact .inr (.inr ⟨hdot', by rw [h]⟩)
    · rw [dropFinalDot_of_getLast?_ne hdot] at h
      by_cases hdot' : text'.getLast? = some '.'
      · obtain ⟨front', rfl⟩ := List.getLast?_eq_some_iff.mp hdot'
        rw [dropFinalDot_snoc] at h
        exact .inr (.inl ⟨hdot, by rw [h]⟩)
      · rw [dropFinalDot_of_getLast?_ne hdot'] at h
        exact .inl h
  · rintro (rfl | ⟨hdot, rfl⟩ | ⟨hdot, rfl⟩)
    · rfl
    · rw [dropFinalDot_snoc, dropFinalDot_of_getLast?_ne hdot]
    · rw [dropFinalDot_snoc, dropFinalDot_of_getLast?_ne hdot]

/-- It makes no difference whether the dot is dropped before the letters are made small or after. -/
theorem dropFinalDot_map_toLower (text : List Char) :
    dropFinalDot (text.map Char.toLower) = (dropFinalDot text).map Char.toLower := by
  by_cases hdot : text.getLast? = some '.'
  · obtain ⟨front, rfl⟩ := List.getLast?_eq_some_iff.mp hdot
    have hlow : (front ++ ['.']).map Char.toLower = front.map Char.toLower ++ ['.'] := by
      simp
    rw [hlow, dropFinalDot_snoc, dropFinalDot_snoc]
  · have hlow : (text.map Char.toLower).getLast? ≠ some '.' :=
      fun h => hdot (getLast?_map_toLower_eq_dot_iff.mp h)
    rw [dropFinalDot_of_getLast?_ne hdot, dropFinalDot_of_getLast?_ne hlow]

/-! ## Spellings -/

/-- The texts differ at most in the case of ASCII letters. -/
def SameLetters (name other : String) : Prop :=
  name.toList.map Char.toLower = other.toList.map Char.toLower

/-- `dotted` is `name` with a dot added, up to the case of letters, and `name` does not end in a dot. -/
def IsDotted (name dotted : String) : Prop :=
  name.toList.getLast? ≠ some '.' ∧ SameLetters dotted (name ++ ".")

/-- The texts are spellings of one name. -/
def IsSpelling (name other : String) : Prop :=
  SameLetters name other ∨ IsDotted name other ∨ IsDotted other name

theorem isDotted_iff :
    IsDotted name other ↔ (name.toList.map Char.toLower).getLast? ≠ some '.' ∧
      other.toList.map Char.toLower = name.toList.map Char.toLower ++ ['.'] := by
  have hdot : (name ++ ".").toList.map Char.toLower = name.toList.map Char.toLower ++ ['.'] := by
    simp
  rw [IsDotted, SameLetters, hdot, Ne, Ne, getLast?_map_toLower_eq_dot_iff]

/-- **The canonical form tells apart exactly what are not spellings of one name.** -/
theorem canonical_eq_iff : canonical name = canonical other ↔ IsSpelling name other := by
  rw [← String.toList_inj, toList_canonical, toList_canonical, ← dropFinalDot_map_toLower,
    ← dropFinalDot_map_toLower, dropFinalDot_eq_iff, IsSpelling, isDotted_iff, isDotted_iff, SameLetters]

/-- Lists of spellings have one list of canonical forms. -/
theorem map_canonical_eq {names others : List String} (h : List.Forall₂ IsSpelling names others) :
    names.map canonical = others.map canonical := by
  induction h with
  | nil => rfl
  | cons hfirst _ ih => rw [List.map_cons, List.map_cons, canonical_eq_iff.mpr hfirst, ih]

/-- A second final dot makes another name. -/
example : ¬ IsSpelling "a.com." "a.com.." := by
  rw [← canonical_eq_iff]
  decide

end HostName

/-! ## What spellings stand for -/

namespace HostPattern

variable {text other : String}

theorem ofText?_congr (h : HostName.IsSpelling text other) : ofText? text = ofText? other := by
  unfold ofText?
  rw [HostName.canonical_eq_iff.mpr h]

theorem isSingleHost_congr (h : HostName.IsSpelling text other) :
    isSingleHost text = isSingleHost other := by
  unfold isSingleHost
  rw [ofText?_congr h]

end HostPattern

end TlsIdentity
