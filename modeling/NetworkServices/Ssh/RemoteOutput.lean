import NetworkServices.Foundation.BoundedRead
import NetworkServices.Foundation.Iteration
import NetworkServices.Foundation.Stores

/-! The output of the remote command in `main` of `exec_rsa.c`: the loop over
`libssh2_channel_read` and what is printed of its buffer. -/

set_option autoImplicit false

namespace NetworkServices.ExecRsa

/-- The variables of the loop, what the channel has left, and the requests it was asked. -/
structure Reading where
  buf : Buffer 4096
  bytes : Int
  total : Int
  calls : Nat
  remaining : List UInt8
  requests : List (Store Unit)

def Reading.start (buf : Buffer 4096) (stream : List UInt8) : Reading :=
  ⟨buf, 0, 0, 0, stream, []⟩

/-- The call, with the space left as a `size_t`, and the addition behind it. -/
def Reading.read (channel : Source UInt8) (state : Reading) : Reading :=
  let requested := (UInt64.ofInt (4096 - state.total)).toNat
  let bytes := channel.answer state.calls requested state.remaining
  { buf := state.buf.storeAt state.total.toNat (state.remaining.take bytes.toNat)
    bytes
    total := state.total + bytes
    calls := state.calls + 1
    remaining := state.remaining.drop bytes.toNat
    requests := state.requests ++ [⟨(), 4096, state.total, requested⟩] }

/-- One pass of `do … while ((bytes > 0) && (total < BUF_SIZE))`. -/
def readRound (channel : Source UInt8) (state : Reading) : Reading ⊕ Reading :=
  let next := state.read channel
  if next.bytes > 0 ∧ next.total < 4096 then .inl next else .inr next

/-- What is printed, and the call after whose failure `main` exits. -/
structure Output where
  printed : List UInt8
  failure : Option String
  deriving DecidableEq

def Reading.finish (ended : Reading) : Output :=
  if ended.bytes < 0 then ⟨[], some "libssh2_channel_read()"⟩
  else ⟨ascii "Received:\n" ++ ended.buf.bytes.take ended.total.toNat ++ ascii "\n", none⟩

/-!
## One pass
-/

/-- The loop in front of a pass: the front of the stream is in the buffer, with room behind it. -/
structure Reading.Open (stream : List UInt8) (state : Reading) : Prop where
  lower : 0 ≤ state.total
  upper : state.total < 4096
  filled : Filled 4096 stream (state.buf.bytes.take state.total.toNat) state.remaining
  requests : AllInside state.requests

theorem open_start (buf : Buffer 4096) (stream : List UInt8) :
    (Reading.start buf stream).Open stream :=
  ⟨Int.le_refl 0, Int.ofNat_lt.mpr (Nat.succ_pos 4095), filled_start 4096 stream, allInside_nil⟩

/-- What a pass leaves, whatever the call has returned. -/
structure Reading.Passed (stream : List UInt8) (state next : Reading) : Prop where
  requests : AllInside next.requests
  answers : Answers (4096 - state.total.toNat) state.remaining next.bytes
  total : next.total = state.total + next.bytes
  filled : 0 ≤ next.bytes →
    Filled 4096 stream (next.buf.bytes.take next.total.toNat) next.remaining ∧
      (next.buf.bytes.take next.total.toNat).length = next.total.toNat
  ended : next.bytes = 0 → next.remaining = []

section Pass

variable {stream : List UInt8} {state : Reading} (opened : state.Open stream)
  (channel : Source UInt8)

include opened

theorem Reading.Open.requested :
    (UInt64.ofInt (4096 - state.total)).toNat = 4096 - state.total.toNat := by
  have lower := opened.lower
  have upper := opened.upper
  rw [UInt64.ofInt, UInt64.toNat_ofNat']
  omega

theorem Reading.Open.answers :
    Answers (4096 - state.total.toNat) state.remaining (state.read channel).bytes := by
  have upper := opened.upper
  rw [← opened.requested]
  exact channel.answers _ _ _ (by rw [opened.requested]; omega)

theorem Reading.Open.allInside : AllInside (state.read channel).requests := by
  have lower := opened.lower
  have upper := opened.upper
  have requested := opened.requested
  refine allInside_append.mpr ⟨opened.requests, allInside_cons.mpr ⟨?_, allInside_nil⟩⟩
  unfold Store.Inside
  dsimp only
  omega

theorem Reading.Open.length_front :
    (state.buf.bytes.take state.total.toNat).length = state.total.toNat := by
  have upper := opened.upper
  rw [List.length_take, state.buf.length_eq]
  omega

/-- What is received stands behind what the buffer holds already. -/
theorem Reading.Open.stored (received : 0 ≤ (state.read channel).bytes) :
    (state.read channel).buf.bytes.take (state.read channel).total.toNat =
        state.buf.bytes.take state.total.toNat ++
          state.remaining.take (state.read channel).bytes.toNat ∧
      (state.read channel).total.toNat =
        state.total.toNat + (state.remaining.take (state.read channel).bytes.toNat).length := by
  have lower := opened.lower
  have upper := opened.upper
  obtain ⟨asked, left⟩ := (opened.answers channel).le received
  have added : (state.read channel).total = state.total + (state.read channel).bytes := rfl
  have total : (state.read channel).total.toNat = state.total.toNat +
      (state.remaining.take (state.read channel).bytes.toNat).length := by
    rw [List.length_take]
    omega
  refine ⟨?_, total⟩
  rw [total]
  exact state.buf.storeAt_take (by rw [List.length_take]; omega)

theorem Reading.Open.read : state.Passed stream (state.read channel) := by
  have answers := opened.answers channel
  have front := opened.length_front
  refine ⟨opened.allInside channel, answers, rfl, fun received => ?_, fun nothing => ?_⟩
  · obtain ⟨stored, total⟩ := opened.stored channel received
    rw [stored]
    refine ⟨opened.filled.read ?_, ?_⟩
    · rw [front]
      exact (answers.le received).1
    · rw [List.length_append, front, total]
  · exact (congrArg (List.drop _) (answers.eq_nil nothing)).trans List.drop_nil

end Pass

/-- The loop behind its last pass. -/
structure Reading.Ended (stream : List UInt8) (ended : Reading) : Prop where
  requests : AllInside ended.requests
  complete : 0 ≤ ended.bytes →
    ended.total = min stream.length 4096 ∧
      ended.buf.bytes.take ended.total.toNat = stream.take ended.total.toNat

section Round

variable {channel : Source UInt8} {stream : List UInt8} {state : Reading}

theorem Reading.Open.next (opened : state.Open stream)
    (goesOn : (state.read channel).bytes > 0 ∧ (state.read channel).total < 4096) :
    (state.read channel).Open stream := by
  have passed := opened.read channel
  have lower := opened.lower
  have total := passed.total
  exact ⟨by omega, goesOn.2, (passed.filled (by omega)).1, passed.requests⟩

theorem Reading.Open.ended (opened : state.Open stream)
    (stops : ¬ ((state.read channel).bytes > 0 ∧ (state.read channel).total < 4096)) :
    (state.read channel).Ended stream := by
  have passed := opened.read channel
  refine ⟨passed.requests, fun received => ?_⟩
  obtain ⟨filled, length⟩ := passed.filled received
  have fits := filled.fits
  have lower := opened.lower
  have total := passed.total
  have stopped : (state.read channel).remaining = [] ∨
      ((state.read channel).buf.bytes.take (state.read channel).total.toNat).length = 4096 := by
    rcases Int.lt_or_eq_of_le received with positive | nothing
    · exact .inr (by omega)
    · exact .inl (passed.ended nothing.symm)
  have whole := filled.length_eq stopped
  have front := filled.eq_take
  rw [length] at whole front
  exact ⟨by omega, front⟩

end Round

/-!
## The answers of the channel
-/

/-- In front of a pass the loop has counted and left what the calls so far were answered. -/
structure Reading.Follows (channel : Source UInt8) (stream : List UInt8) (state : Reading) :
    Prop where
  total : state.total = channel.delivered 4096 stream state.calls
  remaining : state.remaining = stream.drop (channel.delivered 4096 stream state.calls)
  positive : ∀ call < state.calls, 0 < channel.answered 4096 stream call

/-- The last pass is that of the first call that returned nothing or an error, or that of the call
that filled the buffer, and `bytes` is what this call returned. -/
def Reading.Answered (channel : Source UInt8) (stream : List UInt8) (ended : Reading) : Prop :=
  ∃ last, ended.calls = last + 1 ∧ ended.bytes = channel.answered 4096 stream last ∧
    (∀ call < last, 0 < channel.answered 4096 stream call) ∧
    (channel.answered 4096 stream last ≤ 0 ∨ 4096 ≤ channel.delivered 4096 stream (last + 1))

theorem follows_start (channel : Source UInt8) (buf : Buffer 4096) (stream : List UInt8) :
    (Reading.start buf stream).Follows channel stream := by
  refine ⟨rfl, rfl, ?_⟩
  intro call early
  exact absurd early (Nat.not_lt_zero call)

section Follows

variable {channel : Source UInt8} {stream : List UInt8} {state : Reading}
  (opened : state.Open stream) (follows : state.Follows channel stream)

include opened follows

theorem Reading.Follows.bytes :
    (state.read channel).bytes = channel.answered 4096 stream state.calls := by
  have requested := opened.requested
  rw [follows.total, Int.toNat_natCast] at requested
  change channel.answer state.calls (UInt64.ofInt (4096 - state.total)).toNat state.remaining = _
  rw [follows.total, requested, follows.remaining]
  rfl

theorem Reading.Follows.next (received : 0 < (state.read channel).bytes) :
    (state.read channel).Follows channel stream := by
  have bytes := follows.bytes opened
  have delivered := channel.delivered_succ 4096 stream state.calls
  rw [← bytes] at delivered
  have total : (state.read channel).total = state.total + (state.read channel).bytes := rfl
  refine ⟨?_, ?_, ?_⟩
  · change (state.read channel).total = channel.delivered 4096 stream (state.calls + 1)
    rw [total, follows.total, delivered]
    omega
  · change state.remaining.drop (state.read channel).bytes.toNat =
      stream.drop (channel.delivered 4096 stream (state.calls + 1))
    rw [follows.remaining, List.drop_drop, delivered]
  · intro call early
    rcases Nat.lt_succ_iff_lt_or_eq.mp early with earlier | rfl
    · exact follows.positive call earlier
    · exact bytes ▸ received

theorem Reading.Follows.answered
    (stops : ¬ ((state.read channel).bytes > 0 ∧ (state.read channel).total < 4096)) :
    (state.read channel).Answered channel stream := by
  have bytes := follows.bytes opened
  refine ⟨state.calls, rfl, bytes, follows.positive, ?_⟩
  rw [← bytes]
  by_cases received : 0 < (state.read channel).bytes
  · have total := (follows.next opened received).total
    change _ = ((channel.delivered 4096 stream (state.calls + 1) : Nat) : Int) at total
    exact .inr (by omega)
  · exact .inl (Int.not_lt.mp received)

end Follows

/-!
## The loop
-/

def Reached (reached : Reading ⊕ Reading) : List (Store Unit) :=
  reached.elim Reading.requests Reading.requests

/-- The loop ends and stays in the buffer, it ends on an answer of the channel and with an error
only where that was one, and what is printed is the front of the stream. -/
structure Receives (channel : Source UInt8) (stream : List UInt8) (buf : Buffer 4096) : Prop where
  terminates : Returns (readRound channel) (.start buf stream)
  inside : ∀ passes, AllInside (Reached (iterate (readRound channel) passes (.start buf stream)))
  answered : ∀ passes ended,
    iterate (readRound channel) passes (.start buf stream) = .inr ended →
      ended.Answered channel stream
  complete : ∀ passes ended,
    iterate (readRound channel) passes (.start buf stream) = .inr ended → 0 ≤ ended.bytes →
      ended.total = min stream.length 4096 ∧
        ended.buf.bytes.take ended.total.toNat = stream.take ended.total.toNat ∧
        ended.finish = ⟨ascii "Received:\n" ++ stream.take 4096 ++ ascii "\n", none⟩
  refused : ∀ passes ended,
    iterate (readRound channel) passes (.start buf stream) = .inr ended → ended.bytes < 0 →
      ended.finish = ⟨[], some "libssh2_channel_read()"⟩

theorem readRound_inl {channel : Source UInt8} {state next : Reading}
    (stepped : readRound channel state = .inl next) :
    next = state.read channel ∧ next.bytes > 0 ∧ next.total < 4096 := by
  unfold readRound at stepped
  dsimp only at stepped
  split at stepped
  · rename_i goesOn
    cases stepped
    exact ⟨rfl, goesOn⟩
  · cases stepped

theorem readRound_inr {channel : Source UInt8} {state ended : Reading}
    (stepped : readRound channel state = .inr ended) :
    ended = state.read channel ∧ ¬ (ended.bytes > 0 ∧ ended.total < 4096) := by
  unfold readRound at stepped
  dsimp only at stepped
  split at stepped
  · cases stepped
  · rename_i stops
    cases stepped
    exact ⟨rfl, stops⟩

section Loop

variable (channel : Source UInt8) (stream : List UInt8) (buf : Buffer 4096)

theorem iterate_readRound (passes : Nat) :
    (iterate (readRound channel) passes (.start buf stream)).elim
      (fun state => state.Open stream ∧ state.Follows channel stream)
      (fun ended => ended.Ended stream ∧ ended.Answered channel stream) := by
  refine iterate_of_invariant
    (fun state : Reading => state.Open stream ∧ state.Follows channel stream) ?_ ?_
    ⟨open_start buf stream, follows_start channel buf stream⟩ passes
  · intro state next kept stepped
    obtain ⟨opened, follows⟩ := kept
    obtain ⟨rfl, goesOn⟩ := readRound_inl stepped
    exact ⟨opened.next goesOn, follows.next opened goesOn.1⟩
  · intro state ended kept stepped
    obtain ⟨opened, follows⟩ := kept
    obtain ⟨rfl, stops⟩ := readRound_inr stepped
    exact ⟨opened.ended stops, follows.answered opened stops⟩

/-- A pass that goes on has read at least one byte into the space there was. -/
theorem readRound_returns : Returns (readRound channel) (.start buf stream) := by
  refine returns_of_variant (Reading.Open stream) (fun state => (4096 - state.total).toNat) ?_
    (open_start buf stream)
  intro state opened
  cases stepped : readRound channel state with
  | inl next =>
      obtain ⟨rfl, goesOn⟩ := readRound_inl stepped
      have total := (opened.read channel).total
      have upper := opened.upper
      exact .inr ⟨_, rfl, opened.next goesOn, by omega⟩
  | inr ended => exact .inl ⟨ended, rfl⟩

theorem readLoop_receives : Receives channel stream buf := by
  refine ⟨readRound_returns channel stream buf, ?_, ?_, ?_, ?_⟩
  · intro passes
    have reached := iterate_readRound channel stream buf passes
    unfold Reached
    cases stepped : iterate (readRound channel) passes (.start buf stream) with
    | inl state =>
        rw [stepped] at reached
        exact reached.1.requests
    | inr ended =>
        rw [stepped] at reached
        exact reached.1.requests
  · intro passes ended returned
    have reached := iterate_readRound channel stream buf passes
    rw [returned] at reached
    exact reached.2
  · intro passes ended returned received
    have reached := iterate_readRound channel stream buf passes
    rw [returned] at reached
    obtain ⟨total, front⟩ := reached.1.complete received
    have whole : stream.take ended.total.toNat = stream.take 4096 := by
      rw [total, List.take_eq_take_iff]
      omega
    refine ⟨total, front, ?_⟩
    rw [Reading.finish, if_neg (Int.not_lt.mpr received), front, whole]
  · intro passes ended _ failed
    rw [Reading.finish, if_pos failed]

end Loop

/-- Two bytes at a time. -/
theorem readLoop_receives_portions : ∃ passes ended,
    iterate (readRound (.portions 1)) passes (.start (.zeroed 4096) (ascii "Mon 20")) = .inr ended ∧
      ended.finish = ⟨ascii "Received:\nMon 20\n", none⟩ := by
  have receives := readLoop_receives (.portions 1) (ascii "Mon 20") (.zeroed 4096)
  obtain ⟨passes, ended, returned⟩ := receives.terminates
  obtain ⟨last, -, bytes, -, -⟩ := receives.answered passes ended returned
  have received : 0 ≤ ended.bytes := by
    rw [bytes]
    exact portions_answered _ _ _ _
  exact ⟨passes, ended, returned, (receives.complete passes ended returned received).2.2⟩

end NetworkServices.ExecRsa
