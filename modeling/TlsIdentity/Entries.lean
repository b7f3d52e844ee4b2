/-!
# Named entries

A list of values with names, each name at most once. Putting a value under a name that is present
replaces the value where it stands; a new name goes to the end. So the order is that of the first
writes, and the values are those of the last.
-/

namespace TlsIdentity

/-- Values under names, in the order in which the names were first written. -/
abbrev Entries (α : Type) := List (String × α)

namespace Entries

variable {α : Type}

/-- The names, in order. -/
def names (entries : Entries α) : List String :=
  entries.map (·.1)

/-- The value under `name`. -/
def get? (entries : Entries α) (name : String) : Option α :=
  entries.lookup name

/-- Write `value` under `name`. -/
def put (entries : Entries α) (name : String) (value : α) : Entries α :=
  match entries with
  | [] => [(name, value)]
  | entry :: rest =>
    if entry.1 = name then (name, value) :: rest else entry :: put rest name value

/-! ## Reading what was written -/

variable {entries : Entries α} {name other : String} {value : α}

@[simp] theorem get?_nil : get? ([] : Entries α) name = none := rfl

theorem get?_cons {entry : String × α} {rest : Entries α} :
    get? (entry :: rest) name = if name = entry.1 then some entry.2 else get? rest name := by
  rw [get?, List.lookup_cons]
  by_cases h : name = entry.1
  · rw [if_pos h, h, beq_self_eq_true]
  · rw [if_neg h, beq_false_of_ne h]
    rfl

@[simp] theorem get?_put_self : (entries.put name value).get? name = some value := by
  induction entries with
  | nil => simp [put, get?_cons]
  | cons entry rest ih =>
    by_cases h : entry.1 = name
    · simp [put, h, get?_cons]
    · simp [put, h, get?_cons, ih, Ne.symm h]

theorem get?_put_of_ne (h : other ≠ name) :
    (entries.put name value).get? other = entries.get? other := by
  induction entries with
  | nil => simp [put, get?_cons, h]
  | cons entry rest ih =>
    by_cases hn : entry.1 = name
    · simp [put, hn, get?_cons, h]
    · simp [put, hn, get?_cons, ih]

/-- Writing under a name that is present keeps the names and their order; a new name goes last. -/
theorem names_put :
    (entries.put name value).names =
      if name ∈ entries.names then entries.names else entries.names ++ [name] := by
  induction entries with
  | nil => simp [put, names]
  | cons entry rest ih =>
    by_cases hn : entry.1 = name
    · simp [put, hn, names]
    · have hput : names (put (entry :: rest) name value) = entry.1 :: names (put rest name value) := by
        simp [put, hn, names]
      have hmem : name ∈ names (entry :: rest) ↔ name ∈ names rest := by
        simp [names, Ne.symm hn]
      rw [hput, ih]
      by_cases hm : name ∈ names rest
      · rw [if_pos hm, if_pos (hmem.2 hm)]
        rfl
      · rw [if_neg hm, if_neg (fun h => hm (hmem.1 h))]
        rfl

end Entries

end TlsIdentity
