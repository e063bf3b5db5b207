import NetworkServices.RawSockets.Udpv6

/-! When the checksum of `udpv6.c` is the one of the protocol. Neither address enters its sum, and
the cast brings the flow information in. -/

set_option autoImplicit false

namespace NetworkServices.RawSockets.Udpv6

open OnesComplement

theorem sinAddr_eq (order : ByteOrder) (address : SockaddrIn6) :
    sinAddr order address = address.sin6Flowinfo := by
  apply Vector.toList_inj.mp
  have front : (order.bytes address.sin6Family ++ order.bytes address.sin6Port).length = 4 := rfl
  have split : address.bytes order = (order.bytes address.sin6Family ++
      order.bytes address.sin6Port) ++ (address.sin6Flowinfo.toList ++
        (address.sin6Addr.toList ++ order.longBytes address.sin6ScopeId)) := by
    simp [SockaddrIn6.bytes]
  change ((address.bytes order).drop 4).take 4 = _
  rw [split, List.drop_left' front, List.take_left' address.sin6Flowinfo.length_toList]

/-!
## What is stored
-/

/-- The two branches behind the call store the value that is sent for a checksum. -/
theorem store_bytes (order : ByteOrder) (datagram : Datagram) (checksum : UInt16) :
    ((store datagram checksum).bytes order).take 8 =
      datagram.udpHeader.front order ++ order.bytes (transmitted checksum) := by
  have length : ((store datagram checksum).udpHeader.bytes order).length = 8 :=
    Udphdr.bytes_length order _
  rw [Datagram.bytes, List.take_left' length]
  unfold store transmitted
  split
  · rfl
  · rfl

section Sent

variable (order : ByteOrder) (address : SockaddrIn6) (port : CString)

def stored : UInt16 :=
  transmitted (checksum (order.arrange ((filled order address port).bytes order)))

def header : List UInt8 :=
  (filled order address port).udpHeader.front order ++ order.bytes (stored order address port)

theorem sent_eq_some : sent order address port = some (header order address port) := by
  have length : ((filled order address port).bytes order).length = 16 := by
    simp [Datagram.bytes, Phdr.bytes]
  unfold sent
  dsimp only
  rw [internetChecksum_eq_some order (by rw [length]; decide), Option.bind_eq_bind,
    Option.bind_some, store_bytes]
  rfl

/-- Whatever the addresses are, the field does not say that there is no checksum. -/
theorem header_present : (header order address port).drop 6 ≠ [0, 0] := by
  rw [header, List.drop_left' (Udphdr.front_length order _), ← ByteOrder.bytes_zero order]
  intro zero
  exact transmitted_ne_zero _ (order.bytes_injective zero)

/-!
## What the protocol asks for
-/

/-- What the kernel inserts behind the first six bytes of a header. -/
def inserted (source destination : In6Addr) (front : List UInt8) : UInt16 :=
  transmitted (checksum (ByteOrder.arrange .bigEndian
    (pseudoHeader6 source.toList destination.toList 8 17 ++ (front ++ [0, 0]))))

/-- A stored checksum agrees with the protocol: a receiver on any host accepts it, and it is the
value that the kernel inserts. -/
structure Agrees (source destination : In6Addr) (header : List UInt8) : Prop where
  present : header.drop 6 ≠ [0, 0]
  verifies : ∀ receiver, internetChecksum receiver
    (pseudoHeader6 source.toList destination.toList 8 17 ++ header) = some 0
  kernel : header.drop 6 = ByteOrder.bytes .bigEndian (inserted source destination (header.take 6))

/-- The words of the two addresses weigh as much as those of the flow information. -/
def Balanced (source : In6Addr) (address : SockaddrIn6) : Prop :=
  wordSum (source.toList ++ address.sin6Addr.toList) ≡
    wordSum address.sin6Flowinfo.toList [MOD 65535]

instance (source : In6Addr) (address : SockaddrIn6) : Decidable (Balanced source address) :=
  inferInstanceAs (Decidable (_ ≡ _ [MOD 65535]))

example : Balanced #v[0xfe, 0x80, 0, 0, 0, 0, 0, 0, 0, 0, 0, 0, 0, 0, 0, 1]
    ⟨10, 0, #v[0, 0, 0, 0], #v[0, 0, 0, 0, 0, 0, 0, 0, 0, 0, 0, 0, 0, 0, 0x01, 0x7e], 0⟩ := by
  decide

theorem flowinfo_even : Even address.sin6Flowinfo.toList.length :=
  even_length_toList address.sin6Flowinfo (by decide)

theorem addresses_even (source destination : In6Addr) :
    Even (source.toList ++ destination.toList).length := by
  rw [List.length_append]
  exact (even_length_toList source (by decide)).add (even_length_toList destination (by decide))

/-- What enters the sum of the program behind the header: the flow information, and the constants
that the pseudo-header of the protocol has too. -/
theorem wordSum_filled : wordSum (order.arrange ((filled order address port).bytes order)) =
    wordSum (order.arrange ((filled order address port).udpHeader.front order)) +
      (wordSum (order.arrange address.sin6Flowinfo.toList) +
        ((order.load 0 17).toNat + (order.htons 8).toNat)) := by
  have bytes : (filled order address port).bytes order =
      (filled order address port).udpHeader.front order ++ (order.bytes 0 ++
        (address.sin6Flowinfo.toList ++ (0 :: 17 :: (order.bytes (order.htons 8) ++ [])))) := by
    rw [← sinAddr_eq order address]
    simp only [Datagram.bytes, Udphdr.bytes, Phdr.bytes, filled, List.append_assoc,
      List.append_nil, List.cons_append, List.nil_append]
  have front := Udphdr.front_even order (filled order address port).udpHeader
  rw [bytes, ByteOrder.wordSum_arrange_append order front, ByteOrder.wordSum_arrange_bytes,
    ByteOrder.wordSum_arrange_append order (flowinfo_even address),
    ByteOrder.wordSum_arrange_cons_cons,
    ByteOrder.wordSum_arrange_bytes, ByteOrder.arrange_nil, wordSum_nil, UInt16.toNat_zero]
  omega

theorem wordSum_received (source destination : In6Addr) (header : List UInt8) :
    wordSum (order.arrange
        (pseudoHeader6 source.toList destination.toList 8 17 ++ header)) =
      wordSum (order.arrange (source.toList ++ destination.toList)) +
        ((order.load 0 17).toNat + (order.htons 8).toNat) + wordSum (order.arrange header) := by
  have bytes : pseudoHeader6 source.toList destination.toList 8 17 ++ header =
      (source.toList ++ destination.toList) ++
        (0 :: 0 :: 0 :: 8 :: 0 :: 0 :: 0 :: 17 :: header) := by
    rw [pseudoHeader6, List.append_assoc _ _ header, List.append_assoc _ _ (_ ++ header)]
    rfl
  have addresses := addresses_even source destination
  have zero : (order.load 0 0).toNat = 0 := by
    cases order with
    | littleEndian => rfl
    | bigEndian => rfl
  have length : order.load 0 8 = order.htons 8 := rfl
  rw [bytes, ByteOrder.wordSum_arrange_append order addresses, ByteOrder.wordSum_arrange_cons_cons,
    ByteOrder.wordSum_arrange_cons_cons, ByteOrder.wordSum_arrange_cons_cons,
    ByteOrder.wordSum_arrange_cons_cons, zero, length]
  omega

theorem verifies_iff (source : In6Addr) :
    checksum (order.arrange (pseudoHeader6 source.toList address.sin6Addr.toList 8 17 ++
      header order address port)) = 0 ↔ Balanced source address := by
  have front := Udphdr.front_even order (filled order address port).udpHeader
  have sent : wordSum (order.arrange (header order address port)) =
      wordSum (order.arrange ((filled order address port).udpHeader.front order)) +
        (stored order address port).toNat :=
    ByteOrder.wordSum_arrange_concat order front (stored order address port)
  have received := wordSum_received order source address.sin6Addr (header order address port)
  rw [sent, ← Nat.add_assoc] at received
  rw [received_verifies_iff received, wordSum_filled, Balanced,
    ← ByteOrder.wordSum_arrange_modEq_iff order (addresses_even source address.sin6Addr)
      (flowinfo_even address), Nat.ModEq, Nat.ModEq]
  omega

theorem receiver_verifies_iff (source : In6Addr) (receiver : ByteOrder) :
    checksum (receiver.arrange (pseudoHeader6 source.toList address.sin6Addr.toList 8 17 ++
      header order address port)) = 0 ↔ Balanced source address := by
  have whole : Even (pseudoHeader6 source.toList address.sin6Addr.toList 8 17 ++
      header order address port).length := by
    have length : (pseudoHeader6 source.toList address.sin6Addr.toList 8 17 ++
        header order address port).length = 48 := by
      simp [pseudoHeader6, header]
    rw [length]
    decide
  rw [ByteOrder.checksum_arrange_eq_zero_iff receiver whole,
    ← ByteOrder.checksum_arrange_eq_zero_iff order whole]
  exact verifies_iff order address port source

theorem internetChecksum_header_iff (source : In6Addr) (receiver : ByteOrder) :
    internetChecksum receiver (pseudoHeader6 source.toList address.sin6Addr.toList 8 17 ++
      header order address port) = some 0 ↔ Balanced source address := by
  rw [internetChecksum_eq_some receiver (by simp [pseudoHeader6, header]), Option.some.injEq]
  exact receiver_verifies_iff order address port source receiver

/-- The kernel inserts the same value when a receiver accepts it. -/
theorem header_inserted_iff (source : In6Addr) : (header order address port).drop 6 =
      ByteOrder.bytes .bigEndian
        (inserted source address.sin6Addr ((header order address port).take 6)) ↔
    Balanced source address := by
  have front := Udphdr.front_length order (filled order address port).udpHeader
  have present := header_present order address port
  have verifies := receiver_verifies_iff order address port source .bigEndian
  have aligned : Even (pseudoHeader6 source.toList address.sin6Addr.toList 8 17 ++
      (filled order address port).udpHeader.front order).length := by
    have length : (pseudoHeader6 source.toList address.sin6Addr.toList 8 17 ++
        (filled order address port).udpHeader.front order).length = 46 := by
      simp [pseudoHeader6]
    rw [length]
    decide
  rw [header, List.drop_left' front] at present
  rw [header, ← List.append_assoc] at verifies
  rw [header, List.drop_left' front, List.take_left' front, inserted, ← List.append_assoc]
  exact (field_eq_transmitted_iff .bigEndian aligned present).trans verifies

end Sent

/-- The checksum of the program is the one of the protocol for the addresses that weigh as much as
the flow information, and for no others. -/
theorem sent_agrees_iff (order : ByteOrder) (source : In6Addr) (address : SockaddrIn6)
    (port : CString) :
    (∃ bytes, sent order address port = some bytes ∧ Agrees source address.sin6Addr bytes) ↔
      Balanced source address := by
  rw [sent_eq_some]
  constructor
  · intro sent
    obtain ⟨bytes, same, agrees⟩ := sent
    cases same
    exact (internetChecksum_header_iff order address port source order).mp (agrees.verifies order)
  · intro balanced
    refine ⟨_, rfl, header_present order address port, fun receiver => ?_, ?_⟩
    · exact (internetChecksum_header_iff order address port source receiver).mpr balanced
    · exact (header_inserted_iff order address port source).mpr balanced

/-- Between `::1` and `::1`, for which `getaddrinfo` leaves no flow information. -/
theorem loopback_checksum_differs :
    ¬ ∀ (source : In6Addr) (address : SockaddrIn6) (port : CString),
      0 ≤ (atoi port).toInt ∧ (atoi port).toInt ≤ 65535 →
        ∃ bytes, sent .littleEndian address port = some bytes ∧
          Agrees source address.sin6Addr bytes := by
  intro agrees
  obtain ⟨bytes, sent, agrees⟩ := agrees #v[0, 0, 0, 0, 0, 0, 0, 0, 0, 0, 0, 0, 0, 0, 0, 1]
    ⟨10, 0, #v[0, 0, 0, 0], #v[0, 0, 0, 0, 0, 0, 0, 0, 0, 0, 0, 0, 0, 0, 0, 1], 0⟩ (ascii "53")
    (by decide)
  have header : bytes = [0x00, 0x00, 0x00, 0x35, 0x00, 0x08, 0xff, 0xa9] := by
    rw [← Option.some.injEq, ← sent]
    decide
  have verifies := agrees.verifies .littleEndian
  rw [header] at verifies
  exact absurd verifies (by decide)

end NetworkServices.RawSockets.Udpv6
