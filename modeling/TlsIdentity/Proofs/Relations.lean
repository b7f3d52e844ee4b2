import Mathlib.Data.List.Forall2
import Mathlib.Data.Option.Defs

/-!
# Related options and lists

Two options or two lists are related if they have the same shape and what stands at the same place is
related. Here is what later modules ask about this: when there is something that an option or a list is
related to, and what follows for a choice between options.
-/

namespace TlsIdentity

variable {α β ε : Type} {related : α → β → Prop} {first later : Option α} {other last : Option β}

/-! ## Options -/

theorem exists_of_rel_some {b : β} (h : Option.Rel related first (some b)) :
    ∃ a, first = some a ∧ related a b := by
  cases h with
  | some hrelated => exact ⟨_, rfl, hrelated⟩

theorem exists_rel_iff : (∃ other, Option.Rel related first other) ↔ ∀ a ∈ first, ∃ b, related a b := by
  cases first with
  | none => exact ⟨fun _ _ hmem => absurd hmem (Option.not_mem_none _), fun _ => ⟨none, .none⟩⟩
  | some a =>
    constructor
    · rintro ⟨_, hrel⟩ own hown
      obtain rfl := Option.some.inj hown
      cases hrel with
      | some hrelated => exact ⟨_, hrelated⟩
    · intro h
      obtain ⟨b, hrelated⟩ := h a rfl
      exact ⟨some b, .some hrelated⟩

/-- The first that is there on the one side stands against the first that is there on the other. -/
theorem rel_orElse (h : Option.Rel related first other) (h' : Option.Rel related later last) :
    Option.Rel related (first <|> later) (other <|> last) := by
  cases h with
  | some hrelated => exact .some hrelated
  | none => exact h'

/-- A function that makes the one of the other, as an equation. -/
theorem map_eq_of_rel {make : α → Except ε β} (h : Option.Rel (fun a b => make a = .ok b) first other) :
    first.map make = other.map .ok := by
  cases h with
  | none => rfl
  | some hmake => exact congrArg some hmake

/-! ## Lists -/

theorem exists_forall₂_iff {list : List α} :
    (∃ others, List.Forall₂ related list others) ↔ ∀ a ∈ list, ∃ b, related a b := by
  induction list with
  | nil => exact ⟨fun _ _ hmem => absurd hmem List.not_mem_nil, fun _ => ⟨[], .nil⟩⟩
  | cons first rest ih =>
    rw [List.forall_mem_cons, ← ih]
    constructor
    · rintro ⟨_, hall⟩
      cases hall with
      | cons hfirst hrest => exact ⟨⟨_, hfirst⟩, _, hrest⟩
    · rintro ⟨⟨b, hfirst⟩, others, hrest⟩
      exact ⟨b :: others, .cons hfirst hrest⟩

end TlsIdentity
