import Mathlib.Data.List.Basic

/-! A channel with numbered streams. What is sent on one stream arrives in order;
between the streams there is no order. -/

set_option autoImplicit false

namespace NetworkServices

variable {Message : Type}

/-- A message may be taken from the channel when none that was sent before it on the
same stream is still there. -/
inductive Takes {Stream : Type} (stream : Message → Stream) :
    List Message → Message → List Message → Prop where
  | intro (before after : List Message) (message : Message) :
      (∀ earlier ∈ before, stream earlier ≠ stream message) →
      Takes stream (before ++ message :: after) message (before ++ after)

section Takes

variable {Stream : Type} {stream : Message → Stream} {channel rest : List Message}
  {message : Message}

theorem takes_first (stream : Message → Stream) (message : Message) (rest : List Message) :
    Takes stream (message :: rest) message rest :=
  .intro [] rest message fun _ member => absurd member List.not_mem_nil

theorem Takes.length (takes : Takes stream channel message rest) :
    channel.length = rest.length + 1 := by
  cases takes with
  | intro before after =>
      rw [List.length_append, List.length_append, List.length_cons, Nat.add_assoc]

theorem Takes.of_length_le_one (takes : Takes stream channel message rest)
    (single : channel.length ≤ 1) : channel = [message] ∧ rest = [] := by
  cases takes with
  | intro before after =>
      rw [List.length_append, List.length_cons] at single
      have none_before : before = [] := List.eq_nil_of_length_eq_zero (by omega)
      have none_after : after = [] := List.eq_nil_of_length_eq_zero (by omega)
      subst none_before none_after
      exact ⟨rfl, rfl⟩

end Takes

end NetworkServices
