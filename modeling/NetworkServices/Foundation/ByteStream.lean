import Mathlib.Data.List.Basic

/-! Reading a stream in chunks and writing the chunks to a sink that may take less
than it is given. What the sink ends up with is compared with the whole stream. -/

set_option autoImplicit false

namespace NetworkServices

variable {α : Type}

/-- The result of one read: a positive count, zero, or a negative one. -/
inductive ReadResult (α : Type) where
  | data (chunk : List α)
  | finished
  | failed
  deriving DecidableEq

/-- The result of one write: the sink takes at most `count` elements, or the write
fails. -/
inductive WriteResult where
  | written (count : Nat)
  | failed
  deriving DecidableEq

namespace WriteResult

def accepted (result : WriteResult) (chunk : List α) : List α :=
  match result with
  | .written count => chunk.take count
  | .failed => []

def Full (result : WriteResult) (chunk : List α) : Prop :=
  match result with
  | .written count => chunk.length ≤ count
  | .failed => chunk = []

theorem accepted_length_le (result : WriteResult) (chunk : List α) :
    (result.accepted chunk).length ≤ chunk.length := by
  cases result with
  | written count =>
      rw [accepted, List.length_take]
      exact Nat.min_le_right _ _
  | failed => exact Nat.zero_le _

theorem Full.accepted {result : WriteResult} {chunk : List α} (full : result.Full chunk) :
    result.accepted chunk = chunk := by
  cases result with
  | written count => exact List.take_of_length_le full
  | failed => exact Eq.symm full

theorem accepted_length_lt {result : WriteResult} {chunk : List α} (short : ¬ result.Full chunk) :
    (result.accepted chunk).length < chunk.length := by
  cases result with
  | written count =>
      have below : count < chunk.length := Nat.lt_of_not_le short
      rw [WriteResult.accepted, List.length_take]
      omega
  | failed => exact List.length_pos_iff.mpr short

end WriteResult

/-- Results of successive reads of a stream with the given elements left: between
one and `limit` of them at a time, zero only at the end, and an error at any
time. A list without an end stands for a read that never returns. -/
inductive Delivers (limit : Nat) : List α → List (ReadResult α) → Prop where
  | data {chunk remaining : List α} {reads : List (ReadResult α)} :
      chunk ≠ [] → chunk.length ≤ limit → Delivers limit remaining reads →
      Delivers limit (chunk ++ remaining) (.data chunk :: reads)
  | finished (reads : List (ReadResult α)) : Delivers limit [] (.finished :: reads)
  | failed (remaining : List α) (reads : List (ReadResult α)) :
      Delivers limit remaining (.failed :: reads)
  | pending (remaining : List α) : Delivers limit remaining []

def Ends : List (ReadResult α) → Prop
  | [] => False
  | .data _ :: reads => Ends reads
  | _ :: _ => True

/-- What reaches the sink up to the first read without data. Write number `i`
has the result `writes i`. -/
def transferred (writes : Nat → WriteResult) : Nat → List (ReadResult α) → List α
  | i, .data chunk :: reads => (writes i).accepted chunk ++ transferred writes (i + 1) reads
  | _, _ => []

/-- Nothing is lost on the way: every write is full, and a read fails only when
nothing is left. -/
def Intact (writes : Nat → WriteResult) : Nat → List α → List (ReadResult α) → Prop
  | i, remaining, .data chunk :: reads =>
      (writes i).Full chunk ∧ Intact writes (i + 1) (remaining.drop chunk.length) reads
  | _, remaining, .failed :: _ => remaining = []
  | _, _, _ => True

section Transfer

variable {limit : Nat} {remaining : List α} {reads : List (ReadResult α)}

theorem Delivers.transferred_length_le (delivers : Delivers limit remaining reads)
    (writes : Nat → WriteResult) (i : Nat) :
    (transferred writes i reads).length ≤ remaining.length := by
  induction delivers generalizing i with
  | data _ _ _ ih =>
      rw [transferred, List.length_append, List.length_append]
      exact Nat.add_le_add ((writes i).accepted_length_le _) (ih (i + 1))
  | finished | failed | pending => exact Nat.zero_le _

/-- A stream read to its end, or to an error, arrives complete exactly when nothing
is lost: a gap is never filled by what comes later. -/
theorem Delivers.transferred_eq_iff (delivers : Delivers limit remaining reads) (ends : Ends reads)
    (writes : Nat → WriteResult) (i : Nat) :
    transferred writes i reads = remaining ↔ Intact writes i remaining reads := by
  induction delivers generalizing i with
  | @data chunk remaining reads _ _ delivers ih =>
      rw [transferred, Intact, List.drop_left]
      by_cases full : (writes i).Full chunk
      · rw [full.accepted, List.append_cancel_left_eq, ih ends]
        exact (and_iff_right full).symm
      · refine ⟨fun complete => ?_, fun intact => absurd intact.1 full⟩
        have short := WriteResult.accepted_length_lt full
        have bound := delivers.transferred_length_le writes (i + 1)
        have lengths := congrArg List.length complete
        rw [List.length_append, List.length_append] at lengths
        omega
  | finished => exact iff_of_true rfl trivial
  | failed remaining => exact eq_comm
  | pending => exact ends.elim

end Transfer

end NetworkServices
