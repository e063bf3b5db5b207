import NetworkServices.Foundation.Lifetime
import Mathlib.Data.List.Nodup
import Mathlib.Data.List.Perm.Subperm
import Mathlib.Data.List.Range

/-! Numbers that are handed out lowest first, as descriptors are. The greatest number
that was ever handed out says how many were held together at most. -/

set_option autoImplicit false

namespace NetworkServices

/-- Every number that is acquired is the lowest one, from `first` on, that is not held. -/
def LowestFirst (first : Nat) (history : List (Lifetime Nat)) : Prop :=
  Follows (fun before event => ∀ number, event = .acquired number →
    first ≤ number ∧ number ∉ held before ∧
      ∀ lower, first ≤ lower → lower < number → lower ∈ held before) history

/-- At no time are so many held that they do not fit below the bound. -/
def HeldBelow (first bound : Nat) (history : List (Lifetime Nat)) : Prop :=
  ∀ front, front <+: history → first + (held front).length ≤ bound

theorem acquired_of_mem_held {α : Type} [DecidableEq α] {history : List (Lifetime α)}
    {resource : α} (member : resource ∈ held history) : .acquired resource ∈ history := by
  induction history with
  | nil => cases member
  | cons event later ih =>
      cases event with
      | released other => exact .tail _ (ih member)
      | acquired other =>
          rw [held] at member
          split at member
          · exact .tail _ (ih member)
          · rcases List.mem_cons.mp member with rfl | inside
            · exact .head _
            · exact .tail _ (ih inside)

section LowestFirst

variable {first bound : Nat} {history : List (Lifetime Nat)}

theorem LowestFirst.first_le (lowest : LowestFirst first history) {number : Nat}
    (acquired : .acquired number ∈ history) : first ≤ number := by
  obtain ⟨before, after, split⟩ := List.append_of_mem acquired
  exact (lowest before _ after split number rfl).1

theorem LowestFirst.nodup (lowest : LowestFirst first history) : (held history).Nodup := by
  induction history using List.reverseRecOn with
  | nil => exact List.nodup_nil
  | append_singleton front event ih =>
      have rest := ih (lowest.front (List.prefix_append front [event]))
      cases event with
      | released number =>
          rw [held_append_released]
          exact rest.filter _
      | acquired number =>
          obtain ⟨-, new, -⟩ := lowest front _ [] rfl number rfl
          rw [held_append_acquired, ← List.concat_eq_append]
          exact rest.concat new

theorem LowestFirst.length_held_le (lowest : LowestFirst first history)
    (below : ∀ number, .acquired number ∈ history → number < bound) :
    (held history).length ≤ bound - first := by
  have inside : held history ⊆ List.range' first (bound - first) := by
    intro number member
    have acquired := acquired_of_mem_held member
    have lower := lowest.first_le acquired
    have upper := below number acquired
    exact List.mem_range'_1.mpr ⟨lower, by omega⟩
  have lengths := (lowest.nodup.subperm inside).length_le
  rwa [List.length_range'] at lengths

theorem sub_le_length_held {number : Nat}
    (lower : ∀ other, first ≤ other → other < number → other ∈ held history) :
    number - first ≤ (held history).length := by
  have inside : List.range' first (number - first) ⊆ held history := by
    intro other member
    obtain ⟨low, high⟩ := List.mem_range'_1.mp member
    exact lower other low (by omega)
  have distinct : (List.range' first (number - first)).Nodup := List.nodup_range'
  have lengths := (distinct.subperm inside).length_le
  rwa [List.length_range'] at lengths

/-- All numbers stay below a bound exactly when that many fit at every time. -/
theorem LowestFirst.acquired_lt_iff (lowest : LowestFirst first history)
    (fits : first ≤ bound) :
    (∀ number, .acquired number ∈ history → number < bound) ↔
      HeldBelow first bound history := by
  constructor
  · intro below front part
    have lowestFront : LowestFirst first front := lowest.front part
    have few := lowestFront.length_held_le fun number member => below number (part.subset member)
    omega
  · intro together number acquired
    obtain ⟨before, after, split⟩ := List.append_of_mem acquired
    obtain ⟨least, -, lower⟩ := lowest before _ after split number rfl
    have many := sub_le_length_held lower
    have part : before ++ [.acquired number] <+: history := by
      rw [split]
      exact ⟨after, List.append_assoc _ _ _⟩
    have whole := together _ part
    rw [held_append_acquired, List.length_append, List.length_singleton] at whole
    omega

end LowestFirst

end NetworkServices
