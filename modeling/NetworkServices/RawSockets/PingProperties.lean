import NetworkServices.RawSockets.Ping
import Mathlib.Logic.Relation
import Mathlib.Tactic.IntervalCases

/-! What `ping.cpp` sends, what becomes of it at the target and on the way, and what the program
shows of the answers. -/

set_option autoImplicit false

namespace NetworkServices.RawSockets.Ping

/-- An echo message, whose checksum verifies on every host. -/
structure EchoMessage (type : UInt8) (id sequence : UInt16) (data packet : List UInt8) : Prop where
  layout : ∃ first second, packet = [type, 0, first, second] ++
    (ByteOrder.bytes .bigEndian id ++ (ByteOrder.bytes .bigEndian sequence ++ data))
  verifies : ∀ receiver, internetChecksum receiver packet = some 0

/-!
## The sender
-/

theorem fill_total (order : ByteOrder) (pid : Int32) (draws : Nat → Draw) (i : Nat)
    (datagram : Datagram) : ∃ filled, fill order pid draws i datagram = some filled := by
  have short : (Datagram.bytes order ⟨⟨8, 0, 0, order.htons pid.toUInt32.toUInt16,
      order.htons (UInt16.ofNat i)⟩, ⟨letters draws, letters_length draws⟩⟩).length ≤ 65535 := by
    simp [Datagram.bytes, letters_length, dataSize]
  have computed := internetChecksum_eq_some order short
  simp only [fill, computed]
  exact ⟨_, rfl⟩

theorem fill_message {order : ByteOrder} {pid : Int32} {draws : Nat → Draw} {i : Nat}
    {datagram filled : Datagram} (done : fill order pid draws i datagram = some filled) :
    EchoMessage 8 pid.toUInt32.toUInt16 (UInt16.ofNat i) (letters draws) (filled.bytes order) := by
  simp only [fill, Option.bind_eq_bind, Option.bind_eq_some_iff] at done
  obtain ⟨sum, computed, rest⟩ := done
  cases rest
  have bytes (word : UInt16) : Datagram.bytes order ⟨⟨8, 0, word,
      order.htons pid.toUInt32.toUInt16, order.htons (UInt16.ofNat i)⟩,
      ⟨letters draws, letters_length draws⟩⟩ = [8, 0] ++ (order.bytes word ++
        (ByteOrder.bytes .bigEndian pid.toUInt32.toUInt16 ++
          (ByteOrder.bytes .bigEndian (UInt16.ofNat i) ++ letters draws))) := by
    simp [Datagram.bytes, Icmphdr.bytes]
  rw [bytes] at computed ⊢
  refine ⟨⟨_, _, rfl⟩, ?_⟩
  intro receiver
  refine internetChecksum_sealed ?_ ?_ ?_ computed receiver
  · simp [letters_length, dataSize]
  · decide
  · simp [letters_length, dataSize]
    decide

/-- The loop sends while `sendto` succeeds, and each packet is an echo request with its own
number, whatever the datagram held before. -/
theorem sendLoop_sends (order : ByteOrder) (pid : Int32) (draws : Nat → Nat → Draw)
    (sendto : Nat → Bool) (passes i : Nat) (datagram : Datagram) :
    ∃ packets status, sendLoop order pid draws sendto passes i datagram = some (packets, status) ∧
      packets.length = ((List.range' i passes).takeWhile sendto).length ∧
      (status = .success ↔ ∀ k ∈ List.range' i passes, sendto k = true) ∧
      ∀ k (inside : k < packets.length), EchoMessage 8 pid.toUInt32.toUInt16 (UInt16.ofNat (i + k))
        (letters (draws (i + k))) packets[k] := by
  induction passes generalizing i datagram with
  | zero => exact ⟨[], .success, rfl, rfl, by simp, by simp⟩
  | succ passes ih =>
      obtain ⟨filled, done⟩ := fill_total order pid (draws i) i datagram
      by_cases accepted : sendto i = true
      · obtain ⟨packets, status, sent, length, success, messages⟩ := ih (i + 1) filled
        refine ⟨filled.bytes order :: packets, status, ?_, ?_, ?_, ?_⟩
        · simp only [sendLoop, done, Option.bind_eq_bind, Option.bind_some, if_pos accepted, sent]
          rfl
        · rw [List.range'_succ, List.takeWhile_cons_of_pos accepted, List.length_cons,
            List.length_cons, length]
        · rw [success, List.range'_succ, List.forall_mem_cons]
          exact (and_iff_right accepted).symm
        · intro k inside
          cases k with
          | zero => exact fill_message done
          | succ k =>
              rw [List.getElem_cons_succ, Nat.add_comm k 1, ← Nat.add_assoc]
              exact messages k (Nat.lt_of_succ_lt_succ inside)
      · refine ⟨[], .failure, ?_, ?_, ?_, by simp⟩
        · simp only [sendLoop, done, Option.bind_eq_bind, Option.bind_some, if_neg accepted]
          rfl
        · rw [List.range'_succ, List.takeWhile_cons_of_neg accepted]
          rfl
        · rw [List.range'_succ, List.forall_mem_cons]
          exact iff_of_false nofun fun all => accepted all.1

/-- In every run of the sender each packet is an echo request that verifies on every host, with
the process and the number of the packet in it and 31 letters as its data. -/
theorem mainProcess_sends (order : ByteOrder) (pid : Int32) (draws : Nat → Nat → Draw)
    (sendto : Nat → Bool) (datagram : Datagram) :
    ∃ packets status, mainProcess order pid draws sendto datagram = some (packets, status) ∧
      packets.length = ((List.range' 1 4).takeWhile sendto).length ∧
      (status = .success ↔ ∀ i ∈ List.range' 1 4, sendto i = true) ∧
      ∀ k (inside : k < packets.length), EchoMessage 8 pid.toUInt32.toUInt16 (UInt16.ofNat (1 + k))
        (letters (draws (1 + k))) packets[k] :=
  sendLoop_sends order pid draws sendto 4 1 datagram

/-!
## The receiver
-/

theorem address_eq {bytes : List UInt8} {offset : Nat} {field : InAddr}
    (stands : (bytes.drop offset).take 4 = field.toList) : address bytes offset = field := by
  have byte (i : Nat) (inside : i < 4) : bytes.getD (offset + i) 0 = field[i] := by
    have read : (field.toList)[i]? = some field[i] := by simp
    rw [← stands, List.getElem?_take_of_lt inside, List.getElem?_drop] at read
    rw [List.getD_eq_getElem?_getD, read, Option.getD_some]
  apply Vector.ext
  intro i inside
  interval_cases i
  · exact byte 0 (by decide)
  · exact byte 1 (by decide)
  · exact byte 2 (by decide)
  · exact byte 3 (by decide)

/-- The bytes that are shown are among the first 28. -/
theorem shown_congr (order : ByteOrder) {left right : List UInt8}
    (same : ∀ i, i < 28 → left.getD i 0 = right.getD i 0) :
    shown order left = shown order right := by
  unfold shown address word
  simp (disch := decide) only [same]

theorem shown_receive (order : ByteOrder) (datagram : Buffer 40) {packet : List UInt8}
    (long : 28 ≤ packet.length) :
    shown order (datagram.receive packet).bytes = shown order packet := by
  apply shown_congr
  intro i inside
  have front : i < (packet.take 40).length := by
    rw [List.length_take]
    omega
  rw [List.getD_eq_getElem?_getD, List.getD_eq_getElem?_getD]
  congr 1
  show (packet.take 40 ++ datagram.bytes.drop (packet.take 40).length)[i]? = _
  rw [List.getElem?_append_left front, List.getElem?_take_of_lt (by omega)]

/-- A word in network order is read as `htons` of it. -/
theorem word_eq (order : ByteOrder) {bytes : List UInt8} {offset : Nat} {value : UInt16}
    (stands : (bytes.drop offset).take 2 = ByteOrder.bytes .bigEndian value) :
    word order bytes offset = order.htons value := by
  have byte (i : Nat) (inside : i < 2) :
      bytes.getD (offset + i) 0 = (ByteOrder.bytes .bigEndian value).getD i 0 := by
    rw [List.getD_eq_getElem?_getD, List.getD_eq_getElem?_getD, ← stands,
      List.getElem?_take_of_lt inside, List.getElem?_drop]
  unfold word ByteOrder.htons
  rw [byte 1 (by decide)]
  have first := byte 0 (by decide)
  rw [Nat.add_zero] at first
  rw [first]
  rfl

section Reply

variable (order : ByteOrder) (header : Ip) {type : UInt8} {id sequence : UInt16}
  {data message : List UInt8}

theorem EchoMessage.length_le (echo : EchoMessage type id sequence data message) :
    28 ≤ (header.bytes order ++ message).length := by
  obtain ⟨first, second, layout⟩ := echo.layout
  rw [List.length_append, Ip.bytes_length, layout]
  simp
  omega

theorem ipHl_byte (version : BitVec 4) :
    UInt8.ofBitVec (version ++ (5 : BitVec 4)) &&& 15 = 5 := by
  revert version
  decide

/-- What the program shows of an echo message behind a header without options. -/
theorem EchoMessage.shown (echo : EchoMessage type id sequence data message)
    (plain : header.ipHl = 5) (sender : ByteOrder) :
    Ping.shown order (header.bytes sender ++ message) =
      { ipSrc := header.ipSrc
        ipTtl := header.ipTtl
        ipHl := 5
        ipDst := header.ipDst
        type
        code := 0
        id := order.htons id
        sequence := order.htons sequence } := by
  obtain ⟨first, second, layout⟩ := echo.layout
  have behind (offset : Nat) :
      (header.bytes sender ++ message).drop (20 + offset) = message.drop offset := by
    rw [← List.drop_drop, List.drop_left' (header.bytes_length sender)]
  have byte (offset : Nat) :
      (header.bytes sender ++ message).getD (20 + offset) 0 = message.getD offset 0 := by
    rw [List.getD_eq_getElem?_getD, List.getD_eq_getElem?_getD, List.getElem?_append_right,
      Ip.bytes_length, Nat.add_sub_cancel_left]
    rw [Ip.bytes_length]
    exact Nat.le_add_right 20 offset
  have number : word order (header.bytes sender ++ message) 24 = order.htons id := by
    apply word_eq
    rw [behind 4, layout]
    rfl
  have counted : word order (header.bytes sender ++ message) 26 = order.htons sequence := by
    apply word_eq
    rw [behind 6, layout]
    rfl
  have length : (header.bytes sender ++ message).getD 0 0 &&& 15 = 5 := by
    have front : (header.bytes sender ++ message).getD 0 0 =
        UInt8.ofBitVec (header.ipV ++ header.ipHl) := rfl
    rw [front, plain]
    exact ipHl_byte header.ipV
  unfold Ping.shown
  rw [address_eq (header.bytes_ipSrc sender message), address_eq (header.bytes_ipDst sender message),
    number, counted, length, byte 0, byte 1, layout]
  rfl

end Reply

/-- Each block shows the datagram as all results up to it have left it. -/
theorem showLoop_getElem? (order : ByteOrder) (passes : Nat) (datagram : Buffer 40)
    (results : List (Option (List UInt8))) {k : Nat} (inPasses : k < passes)
    (inside : k < results.length) :
    (showLoop order passes datagram results)[k]? =
      some (shown order ((results.take (k + 1)).foldl recvfrom datagram).bytes) := by
  induction k generalizing passes datagram results with
  | zero =>
      obtain ⟨passes, rfl⟩ := Nat.exists_eq_succ_of_ne_zero (Nat.ne_of_gt inPasses)
      cases results with
      | nil => cases inside
      | cons result results => rfl
  | succ k ih =>
      obtain ⟨passes, rfl⟩ := Nat.exists_eq_succ_of_ne_zero (Nat.ne_of_gt (Nat.zero_lt_of_lt inPasses))
      cases results with
      | nil => cases inside
      | cons result results =>
          rw [showLoop, List.getElem?_cons_succ, List.take_succ_cons, List.foldl_cons]
          exact ih passes (recvfrom datagram result) results (Nat.lt_of_succ_lt_succ inPasses)
            (Nat.lt_of_succ_lt_succ inside)

theorem foldl_recvfrom_failed {results : List (Option (List UInt8))}
    (failed : ∀ result ∈ results, result = none) (datagram : Buffer 40) :
    results.foldl recvfrom datagram = datagram := by
  induction results generalizing datagram with
  | nil => rfl
  | cons result results ih =>
      obtain ⟨rfl, others⟩ := List.forall_mem_cons.mp failed
      exact ih others datagram

/-- A failing `recvfrom` goes unnoticed: the last packet is shown once more, as often as it
fails. -/
theorem childProcess_repeats (order : ByteOrder) (datagram : Buffer 40)
    {front later back : List (Option (List UInt8))} {packet : List UInt8}
    (long : 28 ≤ packet.length) (failed : ∀ result ∈ later, result = none)
    (few : front.length + later.length < 4) :
    (childProcess order datagram (front ++ some packet :: (later ++ back)))[front.length +
      later.length]? = some (shown order packet) := by
  have whole : (front ++ some packet :: (later ++ back)).take (front.length + later.length + 1) =
      front ++ some packet :: later := by
    have length : (front ++ some packet :: later).length = front.length + later.length + 1 := by
      rw [List.length_append, List.length_cons]
      rfl
    rw [← List.cons_append, ← List.append_assoc, List.take_left' length]
  have inside : front.length + later.length <
      (front ++ some packet :: (later ++ back)).length := by
    rw [List.length_append, List.length_cons, List.length_append]
    omega
  rw [childProcess, showLoop_getElem? order 4 datagram _ few inside, whole,
    List.foldl_append, List.foldl_cons, foldl_recvfrom_failed failed]
  exact congrArg some (shown_receive order _ long)

/-- A packet between two failures. -/
theorem childProcess_repeats_once :
    (childProcess .littleEndian (.zeroed 40)
      [none, some (List.replicate 28 7), none, some (List.replicate 28 8)])[2]? =
      some (shown .littleEndian (List.replicate 28 7)) :=
  @childProcess_repeats .littleEndian (.zeroed 40) [none] [none] [some (List.replicate 28 8)]
    (List.replicate 28 7) (by decide) (by simp) (by decide)

end NetworkServices.RawSockets.Ping
