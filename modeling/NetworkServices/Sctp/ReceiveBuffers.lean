import NetworkServices.Foundation.Stores
import NetworkServices.Sctp.Echo

/-! The receive buffers of the SCTP programs. The server looks for the end of a message by its
zero, the clients put one behind it, and neither has room for it behind a message that fills the
buffer. -/

set_option autoImplicit false

namespace NetworkServices.Sctp

/-- What one call of `sctp_recvmsg` stores in a buffer of 256 bytes. -/
structure Delivered where
  payload : List UInt8
  nonempty : payload ≠ []
  fits : payload.length ≤ 256

/-!
## The server
-/

/-- The offsets read by a call that takes the buffer for a string, its terminator included. -/
def stringReads (buffer : Buffer 256) (beyond : List UInt8) : List Nat :=
  List.range ((buffer.text beyond).length + 1)

/-- The offsets that `sctp_sendmsg` reads, `strlen(buffer)` of them. -/
def sendReads (buffer : Buffer 256) (beyond : List UInt8) : List Nat :=
  List.range (buffer.text beyond).length

/-- One pass of the loop of `server3.c`: `printf`, `strlen` and `sctp_sendmsg`. -/
def bufferReads (buffer : Buffer 256) (beyond : List UInt8) : List Nat :=
  stringReads buffer beyond ++ stringReads buffer beyond ++ sendReads buffer beyond

def Delivered.received (delivered : Delivered) (stream : UInt16) : Received Unit :=
  recvmsg () ⟨stream, delivered.payload, (), 0⟩

/-- The reply is the message, and the server reads nothing but the message for it; its search for
the end of the string stays in the buffer. -/
structure EchoesExactly (delivered : Delivered) (stream : UInt16) : Prop where
  echoed : ∀ wybor beyond,
    ((delivered.received stream).reply wybor beyond).payload = delivered.payload
  sent : ∀ beyond, ∀ offset ∈ sendReads (delivered.received stream).buffer beyond,
    offset < delivered.payload.length
  inside : ∀ beyond, ∀ offset ∈ bufferReads (delivered.received stream).buffer beyond, offset < 256

/-!
## The clients
-/

/-- The stores of `sctp_recvmsg`, and of `buffer[retval] = 0` where `retval > 0`. -/
def receiveStores : Option Delivered → List (Store Unit)
  | none => []
  | some delivered =>
      [⟨(), 256, 0, delivered.payload.length⟩, ⟨(), 256, delivered.payload.length, 1⟩]

def Client2.sinit_num_ostreams : Nat := 3

/-- The loop of `client2.c` over what its calls of `sctp_recvmsg` deliver. -/
def Client2.stores (answers : List (Option Delivered)) : List (Store Unit) :=
  (answers.take (sinit_num_ostreams - 1)).flatMap receiveStores

/-- The loop of `client3.c`, which receives once for each line it has sent. -/
def Client3.stores (answers : List (Option Delivered)) : List (Store Unit) :=
  answers.flatMap receiveStores

theorem allInside_receiveStores (answers : List (Option Delivered)) :
    AllInside (answers.flatMap receiveStores) ↔
      ∀ delivered, some delivered ∈ answers → delivered.payload.length < 256 := by
  induction answers with
  | nil => exact iff_of_true allInside_nil nofun
  | cons answer answers ih =>
      rw [List.flatMap_cons, allInside_append, ih]
      cases answer with
      | none => simp [receiveStores, allInside_nil]
      | some first =>
          have fits := first.fits
          have terminated : AllInside (receiveStores (some first)) ↔ first.payload.length < 256 := by
            rw [receiveStores, allInside_cons, allInside_cons, inside_iff,
              and_iff_left allInside_nil]
            unfold Store.Inside
            dsimp only
            omega
          simp [terminated]

/-!
## A message in the buffers
-/

/-- What the programs rely on when a message is delivered to them. -/
structure BuffersHold (delivered : Delivered) : Prop where
  server : ∀ stream, EchoesExactly delivered stream
  client2 : AllInside (Client2.stores [some delivered])
  client3 : AllInside (Client3.stores [some delivered])

theorem echoesExactly_of_terminated {delivered : Delivered}
    (short : delivered.payload.length < 256) (nulFree : 0 ∉ delivered.payload) (stream : UInt16) :
    EchoesExactly delivered stream := by
  have text (beyond : List UInt8) :
      (delivered.received stream).buffer.text beyond = delivered.payload :=
    Buffer.text_receive_zeroed short nulFree beyond
  refine ⟨fun _ => text, fun beyond offset read => ?_, fun beyond offset read => ?_⟩
  · rw [sendReads, text] at read
    exact List.mem_range.mp read
  · rw [bufferReads, stringReads, sendReads, text] at read
    simp only [List.mem_append, List.mem_range] at read
    omega

theorem EchoesExactly.nulFree {delivered : Delivered} {stream : UInt16}
    (echoes : EchoesExactly delivered stream) : 0 ∉ delivered.payload := by
  rw [← echoes.echoed .zero []]
  exact zero_not_mem_cString _

theorem client_stores_iff (delivered : Delivered) :
    AllInside (Client3.stores [some delivered]) ↔ delivered.payload.length < 256 := by
  rw [Client3.stores, allInside_receiveStores]
  simp

/-- Every program is safe with a message exactly when a zero fits behind it and none is in it. -/
theorem buffersHold_iff (delivered : Delivered) :
    BuffersHold delivered ↔ delivered.payload.length < 256 ∧ 0 ∉ delivered.payload := by
  have client := client_stores_iff delivered
  constructor
  · intro hold
    exact ⟨client.mp hold.client3, (hold.server 0).nulFree⟩
  · intro terminated
    obtain ⟨short, nulFree⟩ := terminated
    exact ⟨echoesExactly_of_terminated short nulFree, client.mpr short, client.mpr short⟩

def splitMessage : Delivered where
  payload := [97, 0, 98]
  nonempty := List.cons_ne_nil _ _
  fits := by decide

def fullMessage : Delivered where
  payload := List.replicate 256 97
  nonempty := List.replicate_succ ▸ List.cons_ne_nil _ _
  fits := List.length_replicate.le

/-- A zero inside of a message ends its echo; behind a message that fills the buffer the
terminator of the clients is stored outside, and the server looks for one there. -/
theorem full_message_terminated_outside :
    ((splitMessage.received 0).reply .zero []).payload = [97] ∧
      ⟨(), 256, 256, 1⟩ ∈ Client2.stores [some fullMessage] ∧
      ¬ (⟨(), 256, 256, 1⟩ : Store Unit).Inside ∧
      ¬ BuffersHold splitMessage ∧ ¬ BuffersHold fullMessage := by
  have full : fullMessage.payload.length = 256 := List.length_replicate
  refine ⟨by decide, ?_, by decide, fun hold => ?_, fun hold => ?_⟩
  · simp [Client2.stores, Client2.sinit_num_ostreams, receiveStores, full]
  · exact (hold.server 0).nulFree (by decide)
  · have short := (client_stores_iff fullMessage).mp hold.client3
    rw [full] at short
    exact Nat.lt_irrefl 256 short

end NetworkServices.Sctp
