import NetworkServices.Foundation.CString

/-! A receive buffer that outlives one message. Its text is read up to the first NUL
byte, so a short message is followed by what a longer one left behind. -/

set_option autoImplicit false

namespace NetworkServices

/-- `char buffer[size]`. -/
structure Buffer (size : Nat) where
  bytes : List UInt8
  length_eq : bytes.length = size

namespace Buffer

variable {size : Nat}

def zeroed (size : Nat) : Buffer size :=
  ⟨List.replicate size 0, List.length_replicate⟩

/-- The buffer after a call that may store at most `size` bytes in it. -/
def receive (buffer : Buffer size) (message : List UInt8) : Buffer size where
  bytes := overlay (message.take size) buffer.bytes
  length_eq := by
    rw [overlay_length, buffer.length_eq]
    rw [buffer.length_eq, List.length_take]
    exact Nat.min_le_left _ _

theorem length_storeAt (buffer : Buffer size) (offset : Nat) (chunk : List UInt8) :
    ((buffer.bytes.take offset ++ overlay chunk (buffer.bytes.drop offset)).take size).length =
      size := by
  have length := buffer.length_eq
  rw [List.length_take, List.length_append, overlay, List.length_append, List.length_drop,
    List.length_drop, List.length_take]
  omega

/-- The buffer after a store from an offset on; what would lie behind the buffer is not kept. -/
def storeAt (buffer : Buffer size) (offset : Nat) (chunk : List UInt8) : Buffer size where
  bytes := (buffer.bytes.take offset ++ overlay chunk (buffer.bytes.drop offset)).take size
  length_eq := length_storeAt buffer offset chunk

/-- The C string at the start of the buffer. Without a NUL byte it runs on into the
memory behind the buffer. -/
def text (buffer : Buffer size) (beyond : List UInt8) : CString :=
  cString (buffer.bytes ++ beyond)

theorem storeAt_take {chunk : List UInt8} (buffer : Buffer size) {offset : Nat}
    (fits : offset + chunk.length ≤ size) :
    (buffer.storeAt offset chunk).bytes.take (offset + chunk.length) =
      buffer.bytes.take offset ++ chunk := by
  have front : (buffer.bytes.take offset).length = offset := by
    rw [List.length_take, buffer.length_eq]
    omega
  have whole : (buffer.bytes.take offset ++ chunk).length = offset + chunk.length := by
    rw [List.length_append, front]
  rw [storeAt, List.take_take, Nat.min_eq_left fits, overlay, ← List.append_assoc,
    List.take_left' whole]

theorem receive_bytes {message : List UInt8} (buffer : Buffer size)
    (fits : message.length ≤ size) : (buffer.receive message).bytes = overlay message buffer.bytes := by
  change overlay (message.take size) buffer.bytes = overlay message buffer.bytes
  rw [List.take_of_length_le fits]

theorem text_receive {message : List UInt8} (buffer : Buffer size)
    (fits : message.length ≤ size) (nulFree : 0 ∉ message) (beyond : List UInt8) :
    (buffer.receive message).text beyond =
      message ++ cString (buffer.bytes.drop message.length ++ beyond) := by
  rw [text, receive_bytes buffer fits, overlay, List.append_assoc,
    cString_append_of_nulFree nulFree]

theorem text_length_lt_iff (buffer : Buffer size) (beyond : List UInt8) :
    (buffer.text beyond).length < size ↔ 0 ∈ buffer.bytes := by
  have ended := cString_append_length_lt_iff buffer.bytes beyond
  rw [buffer.length_eq] at ended
  exact ended

/-- The buffer holds a text, and zeros behind it. -/
structure Holds (buffer : Buffer size) (remembered : CString) : Prop where
  bytes : buffer.bytes = remembered ++ List.replicate (size - remembered.length) 0
  nulFree : 0 ∉ remembered
  fits : remembered.length ≤ size

theorem holds_zeroed : Holds (.zeroed size) [] :=
  ⟨rfl, List.not_mem_nil, Nat.zero_le _⟩

section Holds

variable {buffer : Buffer size} {remembered message : CString}

theorem Holds.drop_bytes (holds : Holds buffer remembered) (length : Nat) :
    buffer.bytes.drop length = remembered.drop length ++
      List.replicate (size - remembered.length - (length - remembered.length)) 0 := by
  rw [holds.bytes, List.drop_append, List.drop_replicate]

theorem Holds.receive (holds : Holds buffer remembered) (fits : message.length ≤ size)
    (nulFree : 0 ∉ message) : Holds (buffer.receive message) (overlay message remembered) := by
  have rememberedFits := holds.fits
  have length : (overlay message remembered).length =
      message.length + (remembered.length - message.length) := by
    rw [overlay, List.length_append, List.length_drop]
  refine ⟨?_, ?_, by omega⟩
  · rw [receive_bytes buffer fits, length, overlay, overlay, holds.drop_bytes, List.append_assoc]
    congr 3
    omega
  · rw [overlay, List.mem_append, not_or]
    exact ⟨nulFree, fun member => holds.nulFree (List.mem_of_mem_drop member)⟩

/-- The text behind a new message: the rest of the older text, and the memory behind
the buffer when no zero is left in between. -/
theorem Holds.text_receive (holds : Holds buffer remembered) (fits : message.length ≤ size)
    (nulFree : 0 ∉ message) (beyond : List UInt8) :
    (buffer.receive message).text beyond = message ++ (remembered.drop message.length ++
      cString (List.replicate (size - max remembered.length message.length) 0 ++ beyond)) := by
  have leftNulFree : 0 ∉ remembered.drop message.length :=
    fun member => holds.nulFree (List.mem_of_mem_drop member)
  have padding : size - remembered.length - (message.length - remembered.length) =
      size - max remembered.length message.length := by omega
  rw [Buffer.text_receive buffer fits nulFree, holds.drop_bytes, padding, List.append_assoc,
    cString_append_of_nulFree leftNulFree]

theorem Holds.text_receive_of_short (holds : Holds buffer remembered)
    (rememberedShort : remembered.length < size) (short : message.length < size)
    (nulFree : 0 ∉ message) (beyond : List UInt8) :
    (buffer.receive message).text beyond = message ++ remembered.drop message.length := by
  obtain ⟨zeros, padding⟩ : ∃ zeros, size - max remembered.length message.length = zeros + 1 :=
    ⟨size - max remembered.length message.length - 1, by omega⟩
  rw [holds.text_receive (Nat.le_of_lt short) nulFree, padding, List.replicate_succ, List.cons_append,
    cString_terminated, List.append_nil]

theorem text_receive_zeroed (short : message.length < size) (nulFree : 0 ∉ message)
    (beyond : List UInt8) : ((zeroed size).receive message).text beyond = message := by
  have empty : ([] : CString).length < size := Nat.lt_of_le_of_lt (Nat.zero_le _) short
  rw [holds_zeroed.text_receive_of_short empty short nulFree, List.drop_nil, List.append_nil]

/-- The text is the message itself when no earlier message was longer, and when the
message leaves room for a zero or a zero happens to follow the buffer. -/
theorem Holds.text_receive_eq_iff (holds : Holds buffer remembered)
    (fits : message.length ≤ size) (nulFree : 0 ∉ message) (beyond : List UInt8) :
    (buffer.receive message).text beyond = message ↔
      remembered.length ≤ message.length ∧ (message.length = size → cString beyond = []) := by
  rw [holds.text_receive fits nulFree, List.append_right_eq_self, List.append_eq_nil_iff,
    List.drop_eq_nil_iff]
  refine and_congr_right fun covered => ?_
  rw [Nat.max_eq_right covered]
  rcases Nat.lt_or_eq_of_le fits with short | full
  · obtain ⟨zeros, padding⟩ : ∃ zeros, size - message.length = zeros + 1 :=
      ⟨size - message.length - 1, by omega⟩
    rw [padding, List.replicate_succ, List.cons_append, cString_terminated]
    exact iff_of_true rfl fun full => absurd full (Nat.ne_of_lt short)
  · rw [full, Nat.sub_self, List.replicate_zero, List.nil_append]
    exact ⟨fun same _ => same, fun same => same rfl⟩

end Holds

end Buffer

end NetworkServices
