/-!
# Sets of host names

A set of host names is kept as its strictly increasing list, so two sets with the same members are
equal and a set is always shown in the same order: that of the characters' numbers, which is also the
order of the UTF-8 bytes.
-/

namespace TlsIdentity

/-- A finite set of host names. -/
structure HostSet where
  /-- The members in increasing order. -/
  toList : List String
  /-- No member comes twice or out of order. -/
  increasing : toList.Pairwise (· < ·) := by simp
  deriving DecidableEq

namespace HostSet

/-! ## Insertion into an increasing list -/

/-- `names` with `name` at its place, once. -/
def place (name : String) : List String → List String
  | [] => [name]
  | first :: rest =>
    if name < first then name :: first :: rest
    else if name = first then first :: rest
    else first :: place name rest

theorem mem_place {name x : String} {names : List String} :
    x ∈ place name names ↔ x = name ∨ x ∈ names := by
  induction names with
  | nil => simp [place]
  | cons first rest ih =>
    unfold place
    split
    · simp
    · split
      · next h => simp [h]
      · simp only [List.mem_cons, ih]
        constructor
        · rintro (h | h | h) <;> simp [h]
        · rintro (h | h | h) <;> simp [h]

theorem increasing_place {name : String} {names : List String} (h : names.Pairwise (· < ·)) :
    (place name names).Pairwise (· < ·) := by
  induction names with
  | nil => simp [place]
  | cons first rest ih =>
    obtain ⟨hfirst, hrest⟩ := List.pairwise_cons.1 h
    unfold place
    split
    · next hlt =>
      refine List.pairwise_cons.2 ⟨?_, h⟩
      intro x hx
      rcases List.mem_cons.1 hx with rfl | hx
      · exact hlt
      · exact String.lt_trans hlt (hfirst x hx)
    · next hlt =>
      split
      · exact h
      · next hne =>
        refine List.pairwise_cons.2 ⟨?_, ih hrest⟩
        intro x hx
        rcases mem_place.1 hx with rfl | hx
        · exact Std.lt_of_le_of_ne (String.not_lt.1 hlt) (Ne.symm hne)
        · exact hfirst x hx

/-- Increasing lists with the same members are the same list. -/
theorem eq_of_mem_iff {xs ys : List String} (hxs : xs.Pairwise (· < ·)) (hys : ys.Pairwise (· < ·))
    (h : ∀ a, a ∈ xs ↔ a ∈ ys) : xs = ys := by
  induction xs generalizing ys with
  | nil =>
    cases ys with
    | nil => rfl
    | cons y ys => exact absurd ((h y).2 List.mem_cons_self) List.not_mem_nil
  | cons x xs ih =>
    cases ys with
    | nil => exact absurd ((h x).1 List.mem_cons_self) List.not_mem_nil
    | cons y ys =>
      obtain ⟨hx, hxrest⟩ := List.pairwise_cons.1 hxs
      obtain ⟨hy, hyrest⟩ := List.pairwise_cons.1 hys
      have heads : x = y := by
        rcases List.mem_cons.1 ((h x).1 List.mem_cons_self) with rfl | hmem
        · rfl
        · rcases List.mem_cons.1 ((h y).2 List.mem_cons_self) with rfl | hmem'
          · rfl
          · exact absurd (hx y hmem') (String.lt_asymm (hy x hmem))
      subst heads
      have tails : ∀ a, a ∈ xs ↔ a ∈ ys := by
        intro a
        constructor
        · intro ha
          rcases List.mem_cons.1 ((h a).1 (List.mem_cons_of_mem x ha)) with rfl | ha'
          · exact absurd (hx a ha) (String.lt_irrefl a)
          · exact ha'
        · intro ha
          rcases List.mem_cons.1 ((h a).2 (List.mem_cons_of_mem x ha)) with rfl | ha'
          · exact absurd (hy a ha) (String.lt_irrefl a)
          · exact ha'
      rw [ih hxrest hyrest tails]

/-! ## The set -/

/-- The set without members. -/
def empty : HostSet := { toList := [] }

/-- The set with `name` added. -/
def insert (hosts : HostSet) (name : String) : HostSet where
  toList := place name hosts.toList
  increasing := increasing_place hosts.increasing

/-- The set with every one of `names` added. -/
def insertMany (hosts : HostSet) (names : List String) : HostSet :=
  names.foldl insert hosts

/-- The set of the given names. -/
def ofList (names : List String) : HostSet :=
  empty.insertMany names

/-- Whether `name` is a member. -/
def contains (hosts : HostSet) (name : String) : Bool :=
  hosts.toList.contains name

/-- Whether there is no member. -/
def isEmpty (hosts : HostSet) : Bool :=
  hosts.toList.isEmpty

/-! ## Membership -/

/-- Sets with the same members are equal. -/
@[ext] theorem ext {xs ys : HostSet} (h : ∀ name, name ∈ xs.toList ↔ name ∈ ys.toList) : xs = ys := by
  cases xs with
  | mk xs hxs =>
    cases ys with
    | mk ys hys =>
      have hlists : xs = ys := eq_of_mem_iff hxs hys h
      subst hlists
      rfl

@[simp] theorem contains_iff {hosts : HostSet} {name : String} :
    hosts.contains name = true ↔ name ∈ hosts.toList := by
  simp [contains]

@[simp] theorem mem_insert {hosts : HostSet} {name x : String} :
    x ∈ (hosts.insert name).toList ↔ x = name ∨ x ∈ hosts.toList := mem_place

@[simp] theorem mem_insertMany {hosts : HostSet} {names : List String} {x : String} :
    x ∈ (hosts.insertMany names).toList ↔ x ∈ hosts.toList ∨ x ∈ names := by
  induction names generalizing hosts with
  | nil => simp [insertMany]
  | cons name rest ih =>
    have step : hosts.insertMany (name :: rest) = (hosts.insert name).insertMany rest := rfl
    rw [step, ih, mem_insert, List.mem_cons]
    constructor
    · rintro ((h | h) | h) <;> simp [h]
    · rintro (h | h | h) <;> simp [h]

@[simp] theorem mem_ofList {names : List String} {x : String} :
    x ∈ (ofList names).toList ↔ x ∈ names := by
  simp [ofList, empty]

end HostSet

end TlsIdentity
