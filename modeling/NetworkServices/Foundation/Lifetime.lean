import NetworkServices.Foundation.History

/-! Resources that are acquired and released: descriptors, blocks of memory. A history
says which ones are held, and whether anything was released that was not. -/

set_option autoImplicit false

namespace NetworkServices

inductive Lifetime (α : Type) where
  | acquired (resource : α)
  | released (resource : α)
  deriving DecidableEq

variable {α : Type} [DecidableEq α]

/-- What was acquired and not released afterwards, in order of acquisition. -/
def held : List (Lifetime α) → List α
  | [] => []
  | .acquired resource :: later =>
      if .released resource ∈ later then held later else resource :: held later
  | .released _ :: later => held later

/-- Everything that is released is held at that point. -/
def ReleasesHeld (history : List (Lifetime α)) : Prop :=
  ∀ before resource after, history = before ++ .released resource :: after →
    resource ∈ held before

@[simp] theorem held_append_acquired (history : List (Lifetime α)) (resource : α) :
    held (history ++ [.acquired resource]) = held history ++ [resource] := by
  induction history with
  | nil => rfl
  | cons event later ih =>
      cases event with
      | released other => exact ih
      | acquired other =>
          have same : Lifetime.released other ∈ later ++ [.acquired resource] ↔
              .released other ∈ later := by simp
          rw [List.cons_append, held, held, ih]
          simp only [same]
          split <;> rfl

@[simp] theorem held_append_released (history : List (Lifetime α)) (resource : α) :
    held (history ++ [.released resource]) = (held history).filter (· != resource) := by
  induction history with
  | nil => rfl
  | cons event later ih =>
      cases event with
      | released other => exact ih
      | acquired other =>
          rw [List.cons_append, held, held, ih]
          by_cases again : .released other ∈ later
          · rw [if_pos again, if_pos (List.mem_append_left _ again)]
          · rw [if_neg again]
            by_cases same : other = resource
            · subst same
              simp
            · simp [again, same]

theorem releasesHeld_iff {history : List (Lifetime α)} :
    ReleasesHeld history ↔
      Follows (fun before event => ∀ resource, event = .released resource →
        resource ∈ held before) history := by
  constructor
  · intro releases before event after split resource same
    subst same
    exact releases before resource after split
  · intro follows before resource after split
    exact follows before (.released resource) after split resource rfl

theorem releasesHeld_nil : ReleasesHeld ([] : List (Lifetime α)) :=
  releasesHeld_iff.mpr follows_nil

theorem ReleasesHeld.append {history : List (Lifetime α)} (releases : ReleasesHeld history)
    {event : Lifetime α} (justified : ∀ resource, event = .released resource →
      resource ∈ held history) : ReleasesHeld (history ++ [event]) :=
  releasesHeld_iff.mpr ((releasesHeld_iff.mp releases).append justified)

theorem ReleasesHeld.acquire {history : List (Lifetime α)} (releases : ReleasesHeld history)
    (resource : α) : ReleasesHeld (history ++ [.acquired resource]) := by
  refine releases.append fun other same => ?_
  cases same

theorem ReleasesHeld.release {history : List (Lifetime α)} (releases : ReleasesHeld history)
    {resource : α} (member : resource ∈ held history) :
    ReleasesHeld (history ++ [.released resource]) := by
  refine releases.append fun other same => ?_
  cases same
  exact member

theorem held_acquired (resources : List α) : held (resources.map .acquired) = resources := by
  induction resources with
  | nil => rfl
  | cons resource resources ih =>
      have kept : Lifetime.released resource ∉ resources.map .acquired := by simp
      rw [List.map_cons, held, if_neg kept, ih]

theorem releasesHeld_acquired (resources : List α) :
    ReleasesHeld (resources.map Lifetime.acquired) := by
  rw [releasesHeld_iff]
  apply follows_of_forall
  intro event member before resource same
  obtain ⟨other, -, acquired⟩ := List.mem_map.mp member
  rw [same] at acquired
  cases acquired

end NetworkServices
