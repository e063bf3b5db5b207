import Mathlib.Data.List.Basic

/-! Histories and the laws they keep. A law says what may happen after what has happened. -/

set_option autoImplicit false

namespace NetworkServices

variable {Event : Type} {law : List Event → Event → Prop}

/-- Every event of the history is lawful after the events before it. -/
def Follows (law : List Event → Event → Prop) (history : List Event) : Prop :=
  ∀ before event after, history = before ++ event :: after → law before event

@[simp] theorem follows_nil : Follows law [] := by
  intro before event after split
  cases before <;> cases split

theorem follows_cons_iff {event : Event} {later : List Event} :
    Follows law (event :: later) ↔
      law [] event ∧ Follows (fun before => law (event :: before)) later := by
  constructor
  · intro follows
    refine ⟨follows [] event later rfl, ?_⟩
    intro before other after split
    exact follows (event :: before) other after (by rw [split, List.cons_append])
  · intro lawful
    obtain ⟨first, follows⟩ := lawful
    intro before other after split
    cases before with
    | nil =>
        cases split
        exact first
    | cons earlier before =>
        rw [List.cons_append, List.cons.injEq] at split
        obtain ⟨rfl, split⟩ := split
        exact follows before other after split

theorem follows_append_iff {front back : List Event} :
    Follows law (front ++ back) ↔
      Follows law front ∧ Follows (fun before => law (front ++ before)) back := by
  induction front generalizing law with
  | nil => simp
  | cons event front ih => rw [List.cons_append, follows_cons_iff, follows_cons_iff, ih, and_assoc]; rfl

theorem Follows.append {history : List Event} (follows : Follows law history) {event : Event}
    (lawful : law history event) : Follows law (history ++ [event]) := by
  rw [follows_append_iff, follows_cons_iff, List.append_nil]
  exact ⟨follows, lawful, follows_nil⟩

theorem Follows.front {front history : List Event} (follows : Follows law history)
    (part : front <+: history) : Follows law front := by
  obtain ⟨back, rfl⟩ := part
  exact (follows_append_iff.mp follows).1

theorem follows_and_iff {other : List Event → Event → Prop} {history : List Event} :
    Follows (fun before event => law before event ∧ other before event) history ↔
      Follows law history ∧ Follows other history := by
  constructor
  · intro follows
    exact ⟨fun before event after split => (follows before event after split).1,
      fun before event after split => (follows before event after split).2⟩
  · intro both before event after split
    exact ⟨both.1 before event after split, both.2 before event after split⟩

theorem follows_of_forall {history : List Event}
    (lawful : ∀ event ∈ history, ∀ before, law before event) : Follows law history := by
  intro before event after split
  refine lawful event ?_ before
  rw [split]
  exact List.mem_append_right _ List.mem_cons_self

end NetworkServices
