import NetworkServices.Sctp.Echo

/-! The stream numbers of the echo service. The server wraps its reply stream around at
the number it asked for, not at the number the association got; the client chooses the
stream of its first message by a variable that nothing has initialised. -/

set_option autoImplicit false

namespace NetworkServices.Sctp

theorem replyStream_toNat (wybor : Wybor) (stream : UInt16) :
    (replyStream wybor stream).toNat =
      match wybor with
      | .zero => stream.toNat
      | .one => if stream.toNat + 1 < sinit_num_ostreams then stream.toNat + 1 else 0 := by
  cases wybor with
  | zero => rfl
  | one =>
      simp only [replyStream]
      split
      · next inside =>
          have bound : stream.toNat + 1 < 2 ^ 16 := Nat.lt_trans inside (by decide)
          rw [UInt16.toNat_add]
          exact Nat.mod_eq_of_lt bound
      · rfl

/-!
## The server and its associations
-/

section Server

variable {ι : Type}

/-- The server's loop over the messages it receives: the addresses and streams it calls
`sctp_sendmsg` with, and whether it is still running. An association has `outgoing`
streams, and on any other stream the call fails. -/
def serve (wybor : Wybor) (outgoing : ι → Nat) : List (ι × Message ι) → List (ι × UInt16) × Bool
  | [] => ([], true)
  | (cliaddr, message) :: rest =>
      let received := recvmsg cliaddr message
      let stream := replyStream wybor received.sinfo_stream
      if stream.toNat < outgoing received.cliaddr then
        let (calls, running) := serve wybor outgoing rest
        ((received.cliaddr, stream) :: calls, running)
      else ([(received.cliaddr, stream)], false)

def Answerable (wybor : Wybor) (outgoing : Nat) (stream : UInt16) : Prop :=
  match wybor with
  | .zero => stream.toNat < outgoing
  | .one => stream.toNat + 1 < outgoing ∨ sinit_num_ostreams ≤ stream.toNat + 1

theorem replyStream_lt_iff {outgoing : Nat} (positive : 1 ≤ outgoing) (wybor : Wybor)
    (stream : UInt16) :
    (replyStream wybor stream).toNat < outgoing ↔ Answerable wybor outgoing stream := by
  rw [replyStream_toNat]
  cases wybor with
  | zero => exact .rfl
  | one =>
      simp only [Answerable]
      split <;> omega

theorem serve_running_iff (wybor : Wybor) (outgoing : ι → Nat) (messages : List (ι × Message ι)) :
    (serve wybor outgoing messages).2 = true ↔
      ∀ call ∈ (serve wybor outgoing messages).1, call.2.toNat < outgoing call.1 := by
  fun_induction serve wybor outgoing messages with
  | case1 => exact iff_of_true rfl fun _ member => absurd member List.not_mem_nil
  | case2 cliaddr message rest received stream valid calls running served ih =>
      rw [served] at ih
      rw [List.forall_mem_cons]
      exact ih.trans (and_iff_right valid).symm
  | case3 cliaddr message rest received stream invalid =>
      rw [List.forall_mem_singleton]
      exact iff_of_false Bool.false_ne_true invalid

/-- Over any messages of any associations the server stays up, and calls `sctp_sendmsg`
with valid streams only, exactly when every message came on a stream that it can
answer. -/
theorem serve_valid_iff (wybor : Wybor) {outgoing : ι → Nat} (negotiated : ∀ c, 1 ≤ outgoing c)
    (messages : List (ι × Message ι)) :
    ((∀ call ∈ (serve wybor outgoing messages).1, call.2.toNat < outgoing call.1) ∧
        (serve wybor outgoing messages).2 = true) ↔
      ∀ message ∈ messages, Answerable wybor (outgoing message.1) message.2.stream := by
  rw [serve_running_iff, and_self]
  fun_induction serve wybor outgoing messages with
  | case1 =>
      exact iff_of_true (fun _ member => absurd member List.not_mem_nil)
        fun _ member => absurd member List.not_mem_nil
  | case2 cliaddr message rest received stream valid calls running served ih =>
      rw [served] at ih
      have answerable := (replyStream_lt_iff (negotiated cliaddr) wybor message.stream).mp valid
      rw [List.forall_mem_cons, List.forall_mem_cons, ih]
      exact and_congr_left fun _ => iff_of_true valid answerable
  | case3 cliaddr message rest received stream invalid =>
      have unanswerable := mt (replyStream_lt_iff (negotiated cliaddr) wybor message.stream).mpr invalid
      rw [List.forall_mem_singleton, List.forall_mem_cons]
      exact iff_of_false invalid fun all => unanswerable all.1

theorem serve_valid_iff_echo :
    ((∀ call ∈ (serve .one (fun _ : Fin 2 => 5) [(0, ⟨4, [97], 0, 0⟩), (1, ⟨0, [98], 1, 0⟩)]).1,
        call.2.toNat < 5) ∧
      (serve .one (fun _ : Fin 2 => 5) [(0, ⟨4, [97], 0, 0⟩), (1, ⟨0, [98], 1, 0⟩)]).2 = true) ↔
      ∀ message ∈ [((0 : Fin 2), (⟨4, [97], 0, 0⟩ : Message (Fin 2))), (1, ⟨0, [98], 1, 0⟩)],
        Answerable .one 5 message.2.stream :=
  serve_valid_iff .one (fun _ => by decide) _

/-- A peer that accepts one incoming stream ends the server with its first message, in
front of the message of another peer. -/
theorem serve_narrow_association :
    ¬ ((∀ call ∈ (serve .one (fun c : Fin 2 => if c = 0 then 1 else 5)
          [(0, ⟨0, [97], 0, 0⟩), (1, ⟨0, [98], 1, 0⟩)]).1,
          call.2.toNat < if call.1 = 0 then 1 else 5) ∧
        (serve .one (fun c : Fin 2 => if c = 0 then 1 else 5)
          [(0, ⟨0, [97], 0, 0⟩), (1, ⟨0, [98], 1, 0⟩)]).2 = true) := by
  intro valid
  have stopped : (serve .one (fun c : Fin 2 => if c = 0 then 1 else 5)
      [(0, ⟨0, [97], 0, 0⟩), (1, ⟨0, [98], 1, 0⟩)]).2 = false := rfl
  exact absurd valid.2 (stopped ▸ Bool.false_ne_true)

end Server

/-!
## One client and the server
-/

end NetworkServices.Sctp
