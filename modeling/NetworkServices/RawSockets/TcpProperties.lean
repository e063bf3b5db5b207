import NetworkServices.RawSockets.Tcp

/-! What `tcp.c` emits: both checksums verify on any host, the one of the segment over a
pseudo-header that is rebuilt from the bytes of the IP header in front of it. -/

set_option autoImplicit false

namespace NetworkServices.RawSockets.Tcp

variable (order : ByteOrder)

/-!
## The IP header
-/

/-- What `ip_create` has filled in of a header, and the checksum of its bytes. -/
structure Created (destination : InAddr) (header : Ip) : Prop where
  ipLen : header.ipLen = 40
  ipDst : header.ipDst = destination
  verifies : ∀ receiver, internetChecksum receiver (header.bytes order) = some 0

/-- The sum is computed while its own field is still zero. -/
theorem ipCreate_eq_some (destination : InAddr) {header : Ip} (zero : header.ipSum = 0) :
    ∃ created, ipCreate order destination header = some created ∧
      Created order destination created := by
  unfold ipCreate
  dsimp only
  generalize filling : { header with
    ipHl := 5, ipV := 4, ipTos := 0, ipLen := 20 + 20, ipId := 0, ipOff := 0, ipTtl := 255,
    ipP := 6, ipSrc := #v[192, 168, 2, 2], ipDst := destination } = filled
  have summed : filled.bytes order = filled.front order ++
      (order.bytes 0 ++ (filled.ipSrc.toList ++ filled.ipDst.toList)) := by
    rw [← filling, ← zero]
    rfl
  obtain ⟨sum, computed⟩ : ∃ sum, internetChecksum order (filled.bytes order) = some sum :=
    ⟨_, internetChecksum_eq_some order (by rw [Ip.bytes_length]; decide)⟩
  refine ⟨{ filled with ipSum := sum }, ?_, ?_, ?_, ?_⟩
  · rw [computed, ← filling]
    rfl
  · rw [← filling]
    rfl
  · rw [← filling]
  · rw [summed] at computed
    exact internetChecksum_sealed (by simp) (by simp; decide) (by simp; decide) computed

/-!
## The segment
-/

theorem phdr_bytes (ipHeader : Ip) (tcpHeader : Tcphdr) (header : Phdr) :
    Phdr.bytes order { pseudoCreate order ipHeader header with tcp := tcpHeader } =
      pseudoHeader4 ipHeader.ipSrc.toList ipHeader.ipDst.toList 6 20 ++ tcpHeader.bytes order := by
  simp only [Phdr.bytes, pseudoCreate, pseudoHeader4, ByteOrder.bytes_htons]

/-- The copy in the pseudo-header has a field of zero, and only the header itself gets the sum. -/
theorem tcphdr_verifies {tcpHeader : Tcphdr} {check : UInt16} (source destination : InAddr)
    (zero : tcpHeader.check = 0)
    (computed : internetChecksum order (pseudoHeader4 source.toList destination.toList 6 20 ++
      tcpHeader.bytes order) = some check) (receiver : ByteOrder) :
    internetChecksum receiver (pseudoHeader4 source.toList destination.toList 6 20 ++
      { tcpHeader with check }.bytes order) = some 0 := by
  have area (word : UInt16) :
      pseudoHeader4 source.toList destination.toList 6 20 ++
          Tcphdr.bytes order { tcpHeader with check := word } =
        (pseudoHeader4 source.toList destination.toList 6 20 ++ tcpHeader.front order) ++
          (order.bytes word ++ order.bytes tcpHeader.urgPtr) :=
    (List.append_assoc _ _ _).symm
  have unsummed : { tcpHeader with check := 0 } = tcpHeader := by
    rw [← zero]
  have front : (pseudoHeader4 source.toList destination.toList 6 20 ++
      tcpHeader.front order).length = 28 := by
    simp [pseudoHeader4]
  rw [← unsummed, area 0] at computed
  rw [area check]
  exact internetChecksum_sealed (by rw [front, ByteOrder.bytes_length]; decide)
    (by rw [front]; decide) (by rw [ByteOrder.bytes_length]; decide) computed receiver

/-!
## The datagram
-/

/-- What `main` sends: the two headers, without the area behind them. -/
theorem sent_eq_some (destination : InAddr) (port : CString) :
    ∃ ipHeader check, Created order destination ipHeader ∧
      sent order destination port = some
        (ipHeader.bytes order ++ { tcpCreate order (atoi port) {} with check }.bytes order) ∧
      ∀ receiver, internetChecksum receiver
        (pseudoHeader4 ipHeader.ipSrc.toList ipHeader.ipDst.toList 6 20 ++
          { tcpCreate order (atoi port) {} with check }.bytes order) = some 0 := by
  obtain ⟨ipHeader, returned, created⟩ := ipCreate_eq_some order destination
    (show ({} : Ip).ipSum = 0 from rfl)
  obtain ⟨check, computed⟩ : ∃ check, internetChecksum order
      (pseudoHeader4 ipHeader.ipSrc.toList ipHeader.ipDst.toList 6 20 ++
        (tcpCreate order (atoi port) {}).bytes order) = some check :=
    ⟨_, internetChecksum_eq_some order (by simp [pseudoHeader4])⟩
  have length : (ipHeader.bytes order ++
      { tcpCreate order (atoi port) {} with check }.bytes order).length = 40 := by
    simp
  refine ⟨ipHeader, check, created, ?_, tcphdr_verifies order _ _ rfl computed⟩
  unfold sent
  dsimp only
  rw [returned, Option.bind_eq_bind, Option.bind_some, phdr_bytes order ipHeader, computed,
    Option.bind_eq_bind, Option.bind_some, created.ipLen]
  exact congrArg some (List.take_left' length)

/-- What a receiver finds in the bytes of a sender to `destination`. -/
structure Emitted (destination : InAddr) (port : UInt16) (bytes : List UInt8) : Prop where
  length : bytes.length = 40
  ipHeader : ∀ receiver, internetChecksum receiver (bytes.take 20) = some 0
  ipDst : (bytes.drop 16).take 4 = destination.toList
  dest : (bytes.drop 22).take 2 = ByteOrder.bytes .bigEndian port
  segment : ∀ receiver, internetChecksum receiver
    (pseudoHeader4 ((bytes.drop 12).take 4) ((bytes.drop 16).take 4) 6 20 ++ bytes.drop 20) = some 0

theorem sent_emitted (destination : InAddr) (text : CString) {port : Nat} (inRange : port ≤ 65535)
    (argument : (atoi text).toInt = port) :
    ∃ bytes, sent order destination text = some bytes ∧
      Emitted destination (UInt16.ofNat port) bytes := by
  obtain ⟨ipHeader, check, created, emitted, verifies⟩ := sent_eq_some order destination text
  have dest : (tcpCreate order (atoi text) {}).dest = order.htons (UInt16.ofNat port) :=
    congrArg order.htons (IntArithmetic.toUInt16_of_toInt inRange argument)
  have length := ipHeader.bytes_length order
  refine ⟨_, emitted, ?_, ?_, ?_, ?_, ?_⟩
  · rw [List.length_append, length, Tcphdr.bytes_length]
  · intro receiver
    rw [List.take_left' length]
    exact created.verifies receiver
  · rw [Ip.bytes_ipDst, created.ipDst]
  · rw [← ByteOrder.bytes_htons order, ← dest]
    exact Tcphdr.bytes_dest order { tcpCreate order (atoi text) {} with check } length
  · intro receiver
    rw [Ip.bytes_ipSrc, Ip.bytes_ipDst, List.drop_left' length]
    exact verifies receiver

theorem sent_emitted_http : 80 ≤ 65535 ∧ (atoi (ascii "80")).toInt = 80 ∧
    ∃ bytes, sent .littleEndian #v[10, 0, 0, 1] (ascii "80") = some bytes ∧
      Emitted #v[10, 0, 0, 1] (UInt16.ofNat 80) bytes := by
  have inRange : 80 ≤ 65535 := by decide
  have argument : (atoi (ascii "80")).toInt = 80 := by decide
  exact ⟨inRange, argument, sent_emitted .littleEndian #v[10, 0, 0, 1] (ascii "80") inRange argument⟩

example : sent .littleEndian #v[10, 0, 0, 1] (ascii "80") = some
    [0x45, 0x00, 0x28, 0x00, 0x00, 0x00, 0x00, 0x00, 0xff, 0x06, 0xc7, 0x4c, 192, 168, 2, 2,
      10, 0, 0, 1, 0x1a, 0x0a, 0x00, 0x50, 0x00, 0x00, 0x00, 0x00, 0x00, 0x00, 0x00, 0x00,
      0x50, 0x02, 0x16, 0xd0, 0xb2, 0x0d, 0x00, 0x00] := by
  decide

end NetworkServices.RawSockets.Tcp
