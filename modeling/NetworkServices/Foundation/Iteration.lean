/-! A loop without a bound, whose body leaves either a new state or a result, and the two
rules that decide whether it ever comes to its result. -/

set_option autoImplicit false

namespace NetworkServices

variable {State Result : Type}

def iterate (body : State → State ⊕ Result) : Nat → State → State ⊕ Result
  | 0, state => .inl state
  | steps + 1, state =>
      match body state with
      | .inl next => iterate body steps next
      | .inr result => .inr result

theorem iterate_of_next {body : State → State ⊕ Result} {state next : State}
    (stepped : body state = .inl next) (steps : Nat) :
    iterate body (steps + 1) state = iterate body steps next := by
  rw [iterate, stepped]

theorem iterate_of_result {body : State → State ⊕ Result} {state : State} {result : Result}
    (ended : body state = .inr result) (steps : Nat) :
    iterate body (steps + 1) state = .inr result := by
  rw [iterate, ended]

def Returns (body : State → State ⊕ Result) (state : State) : Prop :=
  ∃ steps result, iterate body steps state = .inr result

theorem returned_iff {body : State → State ⊕ Result} {state : State} :
    (∃ steps result, (iterate body steps state).getRight? = some result) ↔ Returns body state := by
  simp only [Sum.getRight?_eq_some_iff]
  rfl

section Rules

variable {body : State → State ⊕ Result} {state : State} (invariant : State → Prop)

/-- A loop returns when each pass that keeps its invariant also decreases its variant. -/
theorem returns_of_variant (variant : State → Nat)
    (progress : ∀ state, invariant state → (∃ result, body state = .inr result) ∨
      ∃ next, body state = .inl next ∧ invariant next ∧ variant next < variant state)
    (start : invariant state) : Returns body state := by
  induction bound : variant state using Nat.strongRecOn generalizing state with
  | ind amount ih =>
      rcases progress state start with ended | stepped
      · obtain ⟨result, ended⟩ := ended
        exact ⟨1, result, iterate_of_result ended 0⟩
      · obtain ⟨next, stepped, kept, decreased⟩ := stepped
        rw [bound] at decreased
        obtain ⟨steps, result, ended⟩ := ih (variant next) decreased kept rfl
        exact ⟨steps + 1, result, (iterate_of_next stepped steps).trans ended⟩

/-- What holds of a loop at every pass, and what then holds of its result. -/
theorem iterate_of_invariant {post : Result → Prop}
    (next : ∀ state next, invariant state → body state = .inl next → invariant next)
    (ends : ∀ state result, invariant state → body state = .inr result → post result)
    (start : invariant state) (steps : Nat) :
    (iterate body steps state).elim invariant post := by
  induction steps generalizing state with
  | zero => exact start
  | succ steps ih =>
      cases stepped : body state with
      | inl after =>
          rw [iterate_of_next stepped]
          exact ih (next state after start stepped)
      | inr result =>
          rw [iterate_of_result stepped]
          exact ends state result start stepped

/-- A loop that never leaves its invariant never returns. -/
theorem not_returns_of_invariant
    (closed : ∀ state, invariant state → ∃ next, body state = .inl next ∧ invariant next)
    (start : invariant state) : ¬ Returns body state := by
  intro returns
  obtain ⟨steps, result, ended⟩ := returns
  induction steps generalizing state with
  | zero => cases ended
  | succ steps ih =>
      obtain ⟨next, stepped, kept⟩ := closed state start
      rw [iterate_of_next stepped] at ended
      exact ih kept ended

end Rules

end NetworkServices
