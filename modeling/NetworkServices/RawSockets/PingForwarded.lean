import NetworkServices.Netfilter.ForwardedPacket
import NetworkServices.RawSockets.PingNetwork

/-! The packets of `ping.cpp` on their way through the queue program. What the request loses there
the answer gets back, since a body that is reversed twice is the old one. -/

set_option autoImplicit false

namespace NetworkServices.RawSockets.Ping

open Netfilter OnesComplement

section Slices

variable {α : Type} {cell reversed : Nat → α}

theorem slice_getElem {start count i : Nat} (inside : i < (slice cell start count).length) :
    (slice cell start count)[i] = cell (start + i) := by
  simp [slice]

/-- A slice that is read from its end. -/
theorem slice_reverse {start count : Nat}
    (back : ∀ i, i < count → reversed (start + i) = cell (start + (count - 1 - i))) :
    slice reversed start count = (slice cell start count).reverse := by
  apply List.ext_getElem (by simp)
  intro i inside _
  rw [slice_length] at inside
  rw [slice_getElem, List.getElem_reverse, slice_getElem, slice_length, back i inside]

end Slices

/-- The ICMP message in a packet without options. -/
def message (cell : Nat → UInt8) (length : Nat) : List UInt8 :=
  slice cell 20 (length - 20)

/-- A message as its type and code, the checksum, the identifier and the number, and the data. -/
theorem message_split (cell : Nat → UInt8) {length : Nat} (long : 28 ≤ length) :
    message cell length = [cell 20, cell 21, cell 22, cell 23] ++
      (slice cell 24 4 ++ slice cell 28 (length - 28)) := by
  have split : length - 20 = 4 + (4 + (length - 28)) := by omega
  rw [message, split, slice_add, slice_add]
  rfl

section Forwarded

variable (verdictId : UInt32) (packet : IcmpPacket 5)

theorem forward_cell {i : Nat} (header : i < 28) (notLow : i ≠ 22) (notHigh : i ≠ 23) :
    (forward verdictId packet).memory.cell i = packet.cell i := by
  rw [forward, callback_cell_cleared verdictId packet.long packet.fits _ notLow notHigh,
    cleared_header header notLow notHigh]

theorem forward_body :
    slice (forward verdictId packet).memory.cell 28 (packet.length - 28) =
      (slice packet.cell 28 (packet.length - 28)).reverse := by
  apply slice_reverse
  intro i inside
  rw [forward, callback_cell_cleared verdictId packet.long packet.fits _ (by omega) (by omega),
    cleared_body (by omega) (by omega)]
  have mirrored : packet.length + 27 - (28 + i) = 28 + (packet.length - 28 - 1 - i) := by omega
  rw [mirrored]

variable {verdictId packet} {type : UInt8} {id sequence : UInt16} {data : List UInt8}

/-- Where the parts of an echo message stand in its packet. -/
theorem EchoMessage.parts (echo : EchoMessage type id sequence data
    (message packet.cell packet.length)) :
    packet.cell 20 = type ∧ packet.cell 21 = 0 ∧
      slice packet.cell 24 4 = ByteOrder.bytes .bigEndian id ++
        ByteOrder.bytes .bigEndian sequence ∧
      slice packet.cell 28 (packet.length - 28) = data := by
  obtain ⟨first, second, layout⟩ := echo.layout
  have long := packet.long
  rw [message_split packet.cell (by omega), ← List.append_assoc (ByteOrder.bytes _ id)] at layout
  obtain ⟨front, back⟩ := List.append_inj layout rfl
  simp only [List.cons.injEq] at front
  obtain ⟨numbers, body⟩ := List.append_inj back rfl
  exact ⟨front.1, front.2.1, numbers, body⟩

/-- An echo message comes through with its data reversed, and still verifies unless it has no
byte but zero in it. -/
theorem EchoMessage.forwarded (echo : EchoMessage type id sequence data
    (message packet.cell packet.length)) (aligned : Even data.length)
    (visible : type ≠ 0 ∨ ∃ byte ∈ data, byte ≠ 0) (verdictId : UInt32) :
    EchoMessage type id sequence data.reverse
      (message (forward verdictId packet).memory.cell packet.length) := by
  have long := packet.long
  obtain ⟨typeByte, codeByte, numbers, body⟩ := echo.parts
  have kept : slice (forward verdictId packet).memory.cell 24 4 = slice packet.cell 24 4 :=
    slice_congr fun i lower upper => forward_cell verdictId packet (by omega) (by omega) (by omega)
  refine ⟨⟨(forward verdictId packet).memory.cell 22, (forward verdictId packet).memory.cell 23,
    ?_⟩, ?_⟩
  · rw [message_split _ (by omega), kept, numbers, forward_body, body,
      forward_cell verdictId packet (by decide) (by decide) (by decide), typeByte,
      forward_cell verdictId packet (by decide) (by decide) (by decide), codeByte,
      List.append_assoc (ByteOrder.bytes _ id)]
  · intro receiver
    have length : (message (forward verdictId packet).memory.cell packet.length).length =
        8 + data.length := by
      rw [← body, message, slice_length, slice_length]
      omega
    have fits := packet.fits
    have whole : Even (message (forward verdictId packet).memory.cell packet.length).length := by
      rw [length]
      exact (show Even 8 by decide).add aligned
    rw [internetChecksum_eq_some receiver (by rw [message, slice_length]; omega),
      Option.some.injEq, ByteOrder.checksum_arrange_eq_zero_iff receiver whole,
      checksum_eq_zero_iff]
    refine ⟨?_, forwarded_sum_dvd verdictId packet⟩
    intro zero
    have empty := (forwarded_sum_eq_zero_iff verdictId packet).mp zero
    rcases visible with typed | ⟨byte, member, nonzero⟩
    · rw [← typeByte] at typed
      exact typed (empty 20 (by omega) (by omega) (by omega) (by omega))
    · rw [← body] at member
      obtain ⟨i, lower, upper, rfl⟩ := mem_slice.mp member
      exact nonzero (empty i (by omega) (by omega) (by omega) (by omega))

end Forwarded

theorem letters_visible (draws : Nat → Draw) : ∃ byte ∈ letters draws, byte ≠ 0 := by
  refine ⟨UInt8.ofNat (draws 0).val, List.mem_append_left _ (List.mem_map.mpr ⟨0, by decide, rfl⟩), ?_⟩
  obtain ⟨value, lower, upper⟩ := draws 0
  intro zero
  have same := congrArg UInt8.toNat zero
  rw [UInt8.toNat_ofNat', UInt8.toNat_zero] at same
  dsimp only at same
  omega

theorem letters_even (draws : Nat → Draw) : Even (letters draws).length := by
  rw [letters_length]
  decide

/-- The queue program leaves alone whatever `ping.cpp` shows of a packet. -/
theorem shown_forward (order : ByteOrder) (verdictId : UInt32) (packet : IcmpPacket 5) :
    shown order (slice (forward verdictId packet).memory.cell 0 packet.length) =
      shown order (slice packet.cell 0 packet.length) := by
  have long := packet.long
  have byte (i : Nat) (inside : i < 28) (notLow : i ≠ 22) (notHigh : i ≠ 23) :
      (slice (forward verdictId packet).memory.cell 0 packet.length).getD i 0 =
        (slice packet.cell 0 packet.length).getD i 0 := by
    have front (cell : Nat → UInt8) : (slice cell 0 packet.length).getD i 0 = cell i := by
      have bound : i < (slice cell 0 packet.length).length := by
        rw [slice_length]
        omega
      rw [List.getD_eq_getElem?_getD, List.getElem?_eq_getElem bound, slice_getElem, Nat.zero_add,
        Option.getD_some]
    rw [front, front, forward_cell verdictId packet inside notLow notHigh]
  unfold shown address word
  simp (disch := decide) only [byte]

/-- A ping whose request and whose answer pass the queue program: the target gets a valid request
with the data reversed, and the sender a valid answer with the data it has sent, and shows what
it shows without the queue. -/
theorem ping_through_queue (first second : UInt32) {request reply : IcmpPacket 5}
    {id sequence : UInt16} {draws : Nat → Draw}
    (sent : EchoMessage 8 id sequence (letters draws) (message request.cell request.length))
    (answers : Answers (message (forward first request).memory.cell request.length)
      (message reply.cell reply.length)) :
    EchoMessage 8 id sequence (letters draws).reverse
        (message (forward first request).memory.cell request.length) ∧
      EchoMessage 0 id sequence (letters draws)
        (message (forward second reply).memory.cell reply.length) ∧
      ∀ order, shown order (slice (forward second reply).memory.cell 0 reply.length) =
        shown order (slice reply.cell 0 reply.length) := by
  have through := sent.forwarded (letters_even draws) (.inl (by decide)) first
  have answered := through.answered answers
  have even : Even (letters draws).reverse.length := by
    rw [List.length_reverse]
    exact letters_even draws
  have visible : ∃ byte ∈ (letters draws).reverse, byte ≠ 0 := by
    obtain ⟨byte, member, nonzero⟩ := letters_visible draws
    exact ⟨byte, List.mem_reverse.mpr member, nonzero⟩
  have back := answered.forwarded even (.inr visible) second
  rw [List.reverse_reverse] at back
  exact ⟨through, back, fun order => shown_forward order second reply⟩

def loopbackHeader : List UInt8 :=
  [0x45, 0, 0, 60, 0, 0, 0, 0, 64, 1, 124, 191, 127, 0, 0, 1, 127, 0, 0, 1]

theorem loopbackHeader_verifies (message : List UInt8) :
    (Netfilter.internetChecksum ⟨fun i => (loopbackHeader ++ message).getD i 0, []⟩ 0
      ((4 * 5 : Nat) : Int)).1 = 0 := by
  have header : slice (fun i => (loopbackHeader ++ message).getD i 0) 0 20 = loopbackHeader := rfl
  rw [Netfilter.internetChecksum_fst, checksum_eq_zero_iff, header]
  decide

theorem shortest_header : 5 ≤ 5 ∧ 5 ≤ 15 := by decide

def onLoopback (message : List UInt8) (hasBody : 4 * 5 + 8 < 20 + message.length)
    (fits : 20 + message.length ≤ 65535) : IcmpPacket 5 where
  cell i := (loopbackHeader ++ message).getD i 0
  length := 20 + message.length
  options := shortest_header
  versionAndLength := rfl
  protocol := rfl
  headerChecksum := loopbackHeader_verifies message
  hasBody := hasBody
  fits := fits

theorem message_onLoopback {bytes : List UInt8} (hasBody : 4 * 5 + 8 < 20 + bytes.length)
    (fits : 20 + bytes.length ≤ 65535) :
    message (onLoopback bytes hasBody fits).cell (onLoopback bytes hasBody fits).length = bytes := by
  have length : (message (onLoopback bytes hasBody fits).cell
      (onLoopback bytes hasBody fits).length).length = bytes.length := by
    rw [message, slice_length]
    exact Nat.add_sub_cancel_left 20 bytes.length
  apply List.ext_getElem length
  intro i _ inside
  have behind : (loopbackHeader ++ bytes)[20 + i]? = bytes[i]? := by
    rw [List.getElem?_append_right (Nat.le_add_right 20 i)]
    exact congrArg (bytes[·]?) (Nat.add_sub_cancel_left 20 i)
  simp only [message, slice_getElem]
  show (loopbackHeader ++ bytes).getD (20 + i) 0 = bytes[i]
  rw [List.getD_eq_getElem?_getD, behind, List.getElem?_eq_getElem inside, Option.getD_some]

theorem EchoMessage.length {type : UInt8} {id sequence : UInt16} {data packet : List UInt8}
    (echo : EchoMessage type id sequence data packet) : packet.length = 8 + data.length := by
  obtain ⟨first, second, layout⟩ := echo.layout
  rw [layout]
  simp
  omega

theorem EchoMessage.exists_packet {type : UInt8} {id sequence : UInt16} {data bytes : List UInt8}
    (echo : EchoMessage type id sequence data bytes) (length : data.length = dataSize) :
    ∃ packet : IcmpPacket 5, message packet.cell packet.length = bytes := by
  have whole := echo.length
  rw [length] at whole
  exact ⟨onLoopback bytes (by rw [whole]; decide) (by rw [whole]; decide),
    message_onLoopback _ _⟩

/-- A ping of the host itself. -/
theorem ping_through_queue_loopback :
    ∃ (request reply : IcmpPacket 5),
      EchoMessage 8 4660 1 (letters fun _ => ⟨65, by decide⟩).reverse
        (message (forward 1 request).memory.cell request.length) ∧
      EchoMessage 0 4660 1 (letters fun _ => ⟨65, by decide⟩)
        (message (forward 2 reply).memory.cell reply.length) ∧
      ∀ order, shown order (slice (forward 2 reply).memory.cell 0 reply.length) =
        shown order (slice reply.cell 0 reply.length) := by
  obtain ⟨filled, done⟩ :=
    fill_total .littleEndian 4660 (fun _ => ⟨65, by decide⟩) 1 emptyDatagram
  have sent := fill_message done
  obtain ⟨request, same⟩ := sent.exists_packet (letters_length _)
  rw [← same] at sent
  have through := sent.forwarded (letters_even _) (.inl (by decide)) 1
  have length : ((letters fun _ => ⟨65, by decide⟩).reverse).length = dataSize := by
    rw [List.length_reverse, letters_length]
  obtain ⟨answer, answers⟩ := through.exists_answer (by rw [length]; decide) (by rw [length]; decide)
  obtain ⟨reply, same'⟩ := (through.answered answers).exists_packet length
  rw [← same'] at answers
  exact ⟨request, reply, ping_through_queue 1 2 sent answers⟩

end NetworkServices.RawSockets.Ping
