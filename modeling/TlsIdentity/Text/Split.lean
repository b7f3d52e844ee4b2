/-!
# Splitting a text in two
-/

namespace TlsIdentity.Text

/-- What stands before and after the first `separator`, if there is one. -/
def splitFirst? (separator : Char) : List Char → Option (List Char × List Char)
  | [] => none
  | c :: rest =>
    if c = separator then some ([], rest)
    else (splitFirst? separator rest).map fun (before, after) => (c :: before, after)

/-- A text splits in one way only: at a separator that has none before it. -/
theorem splitFirst?_eq_some_iff {separator : Char} {text before after : List Char} :
    splitFirst? separator text = some (before, after) ↔
      text = before ++ separator :: after ∧ separator ∉ before := by
  induction text generalizing before with
  | nil => simp [splitFirst?]
  | cons c rest ih =>
    unfold splitFirst?
    split
    · next hc =>
      subst hc
      cases before with
      | nil => simp [eq_comm]
      | cons b before =>
        simp only [Option.some.injEq, Prod.mk.injEq, List.cons_append, List.cons.injEq, List.mem_cons,
          not_or]
        constructor
        · rintro ⟨h, _⟩; cases h
        · rintro ⟨⟨h, _⟩, hne, _⟩; exact absurd h hne
    · next hc =>
      cases before with
      | nil => simp [hc]
      | cons b before =>
        have hmap : (splitFirst? separator rest).map (fun (x, y) => (c :: x, y))
            = some (b :: before, after) ↔ c = b ∧ splitFirst? separator rest = some (before, after) := by
          cases hs : splitFirst? separator rest with
          | none => simp
          | some pair =>
            obtain ⟨x, y⟩ := pair
            simp [and_assoc]
        rw [hmap, ih]
        simp only [List.cons_append, List.cons.injEq, List.mem_cons, not_or]
        constructor
        · rintro ⟨rfl, h, hb⟩; exact ⟨⟨rfl, h⟩, fun h' => hc h'.symm, hb⟩
        · rintro ⟨⟨rfl, h⟩, _, hb⟩; exact ⟨rfl, h, hb⟩

/-- Where there is no separator there is nothing to split. -/
theorem splitFirst?_eq_none_iff {separator : Char} {text : List Char} :
    splitFirst? separator text = none ↔ separator ∉ text := by
  induction text with
  | nil => simp [splitFirst?]
  | cons c rest ih =>
    by_cases hc : c = separator
    · simp [splitFirst?, hc]
    · simp [splitFirst?, hc, ih, Ne.symm hc]

end TlsIdentity.Text
