import Mathlib.Data.List.Basic

/-! A source that answers each request with a part of what it has left, and a reader with room for
so many elements. However the source divides its elements, what is read is their front. -/

set_option autoImplicit false

namespace NetworkServices

variable {α : Type}

/-- A count that a request for up to `requested` elements may return: a negative one on an error,
zero at the end, and otherwise at least one. -/
def Answers (requested : Nat) (remaining : List α) (count : Int) : Prop :=
  count < 0 ∨ count = 0 ∧ remaining = [] ∨
    0 < count ∧ count ≤ requested ∧ count ≤ remaining.length

section Answers

variable {requested : Nat} {remaining : List α} {count : Int}
  (answers : Answers requested remaining count)

include answers

theorem Answers.le (received : 0 ≤ count) :
    count.toNat ≤ requested ∧ count.toNat ≤ remaining.length := by
  rcases answers with failed | ⟨nothing, -⟩ | ⟨-, asked, left⟩
  · omega
  · omega
  · omega

theorem Answers.eq_nil (nothing : count = 0) : remaining = [] := by
  rcases answers with failed | ⟨-, ended⟩ | ⟨positive, -⟩
  · omega
  · exact ended
  · omega

end Answers

/-- What a source returns at each of its calls. -/
structure Source (α : Type) where
  answer : (call requested : Nat) → (remaining : List α) → Int
  answers : ∀ call requested remaining, 0 < requested →
    Answers requested remaining (answer call requested remaining)

/-- A source that gives what it is asked for. -/
def Source.eager : Source α where
  answer _ requested remaining := min requested remaining.length
  answers _ requested remaining positive := by
    cases remaining with
    | nil => exact .inr (.inl ⟨by rw [List.length_nil]; omega, rfl⟩)
    | cons item remaining =>
        refine .inr (.inr ⟨?_, ?_, ?_⟩)
        · rw [List.length_cons]
          omega
        · exact Int.min_le_left _ _
        · exact Int.min_le_right _ _

instance : Inhabited (Source α) := ⟨.eager⟩

/-- A source that gives at most `more + 1` elements at a time. -/
def Source.portions (more : Nat) : Source α where
  answer _ requested remaining := min (min requested (more + 1)) remaining.length
  answers _ requested remaining positive := by
    cases remaining with
    | nil => exact .inr (.inl ⟨by rw [List.length_nil]; omega, rfl⟩)
    | cons item remaining =>
        refine .inr (.inr ⟨?_, ?_, ?_⟩)
        · rw [List.length_cons]
          omega
        · exact Int.le_trans (Int.min_le_left _ _) (Int.min_le_left _ _)
        · exact Int.min_le_right _ _

section Answered

variable (source : Source α) (room : Nat) (stream : List α)

/-- What a reader that always asks for the room it has left holds after so many calls. -/
def Source.delivered : Nat → Nat
  | 0 => 0
  | calls + 1 =>
      let delivered := Source.delivered calls
      delivered + (source.answer calls (room - delivered) (stream.drop delivered)).toNat

/-- What that reader's call is answered. -/
def Source.answered (call : Nat) : Int :=
  source.answer call (room - source.delivered room stream call)
    (stream.drop (source.delivered room stream call))

theorem Source.delivered_succ (calls : Nat) :
    source.delivered room stream (calls + 1) =
      source.delivered room stream calls + (source.answered room stream calls).toNat := rfl

/-- It never fails. -/
theorem portions_answered (more call : Nat) :
    0 ≤ (Source.portions more).answered room stream call := by
  change (0 : Int) ≤ min (min ((_ : Nat) : Int) (more + 1)) ((_ : Nat) : Int)
  omega

end Answered

/-- The front of a stream that has been read into the room there is, and the rest of it. -/
structure Filled (room : Nat) (stream front remaining : List α) : Prop where
  whole : front ++ remaining = stream
  fits : front.length ≤ room

section Filled

variable {room : Nat} {stream front remaining : List α}

theorem filled_start (room : Nat) (stream : List α) : Filled room stream [] stream :=
  ⟨List.nil_append stream, Nat.zero_le room⟩

theorem Filled.read (filled : Filled room stream front remaining) {count : Nat}
    (requested : count ≤ room - front.length) :
    Filled room stream (front ++ remaining.take count) (remaining.drop count) := by
  have fits := filled.fits
  refine ⟨?_, ?_⟩
  · rw [List.append_assoc, List.take_append_drop, filled.whole]
  · rw [List.length_append, List.length_take]
    omega

theorem Filled.eq_take (filled : Filled room stream front remaining) :
    front = stream.take front.length := by
  rw [← filled.whole, List.take_left]

/-- A reader that stops at the end of the stream or without room has read as much as fits. -/
theorem Filled.length_eq (filled : Filled room stream front remaining)
    (stopped : remaining = [] ∨ front.length = room) : front.length = min stream.length room := by
  have fits := filled.fits
  rw [← filled.whole, List.length_append]
  rcases stopped with rfl | full
  · rw [List.length_nil]
    omega
  · omega

end Filled

end NetworkServices
