import NetworkServices.Netfilter.CallbackProperties

/-! What becomes of an ICMP packet on its way through `callback`: whether its
receiver accepts the checksum, and which of its bytes are still in place. Both
depend on where the packet's own header length puts the ICMP message. -/

set_option autoImplicit false

namespace NetworkServices.Netfilter

open OnesComplement

/-- An IPv4 packet that carries an ICMP message with a nonempty body behind an
IP header of `4 * ihl` bytes. The cells from `length` on are whatever memory
follows the packet. -/
structure IcmpPacket (ihl : Nat) where
  cell : Nat → UInt8
  length : Nat
  options : 5 ≤ ihl ∧ ihl ≤ 15
  versionAndLength : cell 0 = UInt8.ofNat (0x40 + ihl)
  protocol : cell 9 = 1
  headerChecksum : (internetChecksum ⟨cell, []⟩ 0 ((4 * ihl : Nat) : Int)).1 = 0
  hasBody : 4 * ihl + 8 < length
  fits : length ≤ 65535

variable {ihl : Nat}

theorem IcmpPacket.long (packet : IcmpPacket ihl) : 29 ≤ packet.length := by
  have body := packet.hasBody
  have options := packet.options
  omega

def forward (id : UInt32) (packet : IcmpPacket ihl) : Verdict :=
  callback id packet.length ⟨packet.cell, []⟩

/-!
## The checksum at the receiver
-/

private theorem packet_sum (cell : Nat → UInt8) {n : Nat} (long : 20 ≤ n) :
    wordSum (slice cell 0 n) = wordSum (slice cell 0 20) + wordSum (slice cell 20 (n - 20)) := by
  obtain ⟨message, rfl⟩ := Nat.exists_eq_add_of_le long
  rw [slice_add, wordSum_append (by rw [slice_length]; decide), Nat.zero_add,
    Nat.add_sub_cancel_left]

private theorem header_sum (packet : IcmpPacket 5) :
    wordSum (slice (cleared packet.cell packet.length) 0 20) ≠ 0 ∧
      65535 ∣ wordSum (slice (cleared packet.cell packet.length) 0 20) := by
  have untouched : slice (cleared packet.cell packet.length) 0 20 = slice packet.cell 0 20 :=
    slice_congr fun i _ upper => cleared_header (by omega) (by omega) (by omega)
  have valid := packet.headerChecksum
  rw [internetChecksum_fst, checksum_eq_zero_iff] at valid
  rw [untouched]
  exact valid

private theorem forwarded_sum (id : UInt32) (packet : IcmpPacket 5) :
    wordSum (slice (forward id packet).memory.cell 20 (packet.length - 20)) =
      wordSum (slice (cleared packet.cell packet.length) 20 (packet.length - 20)) +
        (storedChecksum packet.cell packet.length).toNat := by
  have long := packet.long
  have split : packet.length - 20 = 2 + (2 + (packet.length - 24)) := by omega
  rw [forward, callback_cell id long packet.fits, split]
  exact wordSum_slice_store 20 2 (by decide) (cleared_low _ _) (cleared_high _ _) _

private theorem cleared_message_eq_zero_iff (packet : IcmpPacket 5) :
    wordSum (slice (cleared packet.cell packet.length) 20 (packet.length - 20)) = 0 ↔
      ∀ i, 20 ≤ i → i < packet.length → i ≠ 22 → i ≠ 23 → packet.cell i = 0 := by
  have long := packet.long
  rw [wordSum_eq_zero_iff]
  constructor
  · intro clear i lower upper notLow notHigh
    by_cases body : 28 ≤ i
    · have mirrored := clear _ (mem_slice.mpr
        ⟨packet.length + 27 - i, by omega, by omega, cleared_body (by omega) (by omega)⟩)
      have twice : packet.length + 27 - (packet.length + 27 - i) = i := by omega
      rwa [twice] at mirrored
    · exact clear _ (mem_slice.mpr
        ⟨i, by omega, by omega, cleared_header (by omega) notLow notHigh⟩)
  · intro zero byte member
    obtain ⟨i, lower, upper, rfl⟩ := mem_slice.mp member
    by_cases body : 28 ≤ i
    · rw [cleared_body body (by omega)]
      exact zero _ (by omega) (by omega) (by omega) (by omega)
    · by_cases low : i = 22
      · subst low
        exact cleared_low _ _
      · by_cases high : i = 23
        · subst high
          exact cleared_high _ _
        · rw [cleared_header (by omega) low high]
          exact zero i lower (by omega) low high

theorem forwarded_sum_dvd (id : UInt32) (packet : IcmpPacket 5) :
    65535 ∣ wordSum (slice (forward id packet).memory.cell 20 (packet.length - 20)) := by
  have long := packet.long
  have whole : 65535 ∣ wordSum (slice (cleared packet.cell packet.length) 0 packet.length) +
      (storedChecksum packet.cell packet.length).toNat := checksum_add_wordSum _
  rw [packet_sum _ (by omega), Nat.add_assoc] at whole
  rw [forwarded_sum]
  exact (Nat.dvd_add_right (header_sum packet).2).mp whole

theorem forwarded_sum_eq_zero_iff (id : UInt32) (packet : IcmpPacket 5) :
    wordSum (slice (forward id packet).memory.cell 20 (packet.length - 20)) = 0 ↔
      ∀ i, 20 ≤ i → i < packet.length → i ≠ 22 → i ≠ 23 → packet.cell i = 0 := by
  have long := packet.long
  rw [forwarded_sum, ← cleared_message_eq_zero_iff, Nat.add_eq_zero_iff]
  constructor
  · exact fun sums => sums.1
  · intro messageZero
    -- The packet sums to the header's minus zero, so the stored checksum is zero.
    have stored : storedChecksum packet.cell packet.length = 0 := by
      rw [storedChecksum, checksum_eq_zero_iff, packet_sum _ (by omega), messageZero]
      exact header_sum packet
    exact ⟨messageZero, by rw [stored, UInt16.toNat_zero]⟩

/-- The receiver accepts the forwarded message exactly when some byte of it,
other than the checksum, is not zero. The sum of an all-zero message is plus zero,
which the header's minus zero turns into a zero checksum. -/
theorem forwarded_checksum_valid_iff (id : UInt32) (packet : IcmpPacket 5) :
    (internetChecksum (forward id packet).memory 20 ((packet.length - 20 : Nat) : Int)).1 = 0 ↔
      ∃ i, 20 ≤ i ∧ i < packet.length ∧ i ≠ 22 ∧ i ≠ 23 ∧ packet.cell i ≠ 0 := by
  rw [internetChecksum_fst, checksum_eq_zero_iff, Ne, forwarded_sum_eq_zero_iff]
  constructor
  · intro accepted
    obtain ⟨nonzero, _⟩ := accepted
    push Not at nonzero
    exact nonzero
  · intro someByte
    obtain ⟨i, lower, upper, notLow, notHigh, nonzero⟩ := someByte
    exact ⟨fun zero => nonzero (zero i lower upper notLow notHigh), forwarded_sum_dvd id packet⟩

private def zeroReplyHeader : List UInt8 :=
  [0x45, 0, 0, 29, 0, 0, 0, 0, 64, 1, 124, 222, 127, 0, 0, 1, 127, 0, 0, 1]

def zeroReply : IcmpPacket 5 where
  cell i := zeroReplyHeader.getD i 0
  length := 29
  options := by decide
  versionAndLength := by decide
  protocol := by decide
  headerChecksum := by
    rw [internetChecksum_fst, checksum_eq_zero_iff]
    decide
  hasBody := by decide
  fits := by decide

theorem zeroReply_not_accepted :
    (internetChecksum (forward 0 zeroReply).memory 20 ((zeroReply.length - 20 : Nat) : Int)).1 ≠
      0 := by
  rw [Ne, internetChecksum_fst, checksum_eq_zero_iff]
  intro accepted
  obtain ⟨nonempty, _⟩ := accepted
  refine nonempty ((forwarded_sum_eq_zero_iff 0 zeroReply).mpr fun i lower _ _ _ => ?_)
  have behind : zeroReplyHeader.length ≤ i := lower
  simp only [zeroReply, List.getD_eq_getElem?_getD, List.getElem?_eq_none behind,
    Option.getD_none]

/-!
## The bytes left in place
-/

/-- What a reversal of the ICMP body leaves of a packet: its length, its IP header
with the options, the ICMP header but for the checksum, and the body backwards. -/
structure BodyReversed (packet : IcmpPacket ihl) (verdict : Verdict) : Prop where
  length : verdict.dataLength.toNat = packet.length
  ipHeader : ∀ i, i < 4 * ihl → verdict.memory.cell i = packet.cell i
  icmpHeader : ∀ i, 4 * ihl ≤ i → i < 4 * ihl + 8 → i ≠ 4 * ihl + 2 → i ≠ 4 * ihl + 3 →
    verdict.memory.cell i = packet.cell i
  body : ∀ i, i < packet.length - (4 * ihl + 8) →
    verdict.memory.cell (4 * ihl + 8 + i) = packet.cell (packet.length - 1 - i)

/-- The packets with options whose bytes happen to survive: those at the checksum's
place in an option-free packet are already the stored ones, and the bytes from
offset 28 on repeat with the length of the options as their period and read the
same from both ends over one period, the ICMP checksum excepted. -/
structure OptionsCoincide (packet : IcmpPacket ihl) : Prop where
  low : packet.cell 22 = (storedChecksum packet.cell packet.length).toUInt8
  high : packet.cell 23 = (storedChecksum packet.cell packet.length >>> 8).toUInt8
  periodic : ∀ i, 28 ≤ i → i + (4 * ihl - 20) < packet.length →
    packet.cell i = packet.cell (i + (4 * ihl - 20))
  symmetric : ∀ i, 28 ≤ i → i < 4 * ihl + 8 → i ≠ 4 * ihl + 2 → i ≠ 4 * ihl + 3 →
    packet.cell i = packet.cell (packet.length + 27 - i)

section Frame

variable (id : UInt32) (packet : IcmpPacket ihl)

private theorem forward_cell_header {i : Nat} (header : i < 28) (notLow : i ≠ 22)
    (notHigh : i ≠ 23) : (forward id packet).memory.cell i = packet.cell i := by
  rw [forward, callback_cell_cleared id packet.long packet.fits _ notLow notHigh,
    cleared_header header notLow notHigh]

private theorem forward_cell_body {i : Nat} (body : 28 ≤ i) (inside : i < packet.length) :
    (forward id packet).memory.cell i = packet.cell (packet.length + 27 - i) := by
  rw [forward, callback_cell_cleared id packet.long packet.fits _ (by omega) (by omega),
    cleared_body body inside]

private theorem bodyReversed_of_no_options (packet : IcmpPacket 5) :
    BodyReversed packet (forward id packet) where
  length := callback_dataLength id packet.fits _
  ipHeader i header := forward_cell_header id packet (by omega) (by omega) (by omega)
  icmpHeader i lower upper notLow notHigh :=
    forward_cell_header id packet (by omega) (by omega) (by omega)
  body i inside := by
    rw [forward_cell_body id packet (by omega) (by omega)]
    congr 1
    omega

private theorem optionsCoincide_of_bodyReversed (withOptions : 6 ≤ ihl)
    (reversed : BodyReversed packet (forward id packet)) : OptionsCoincide packet where
  low := by
    rw [← reversed.ipHeader 22 (by omega), forward]
    exact callback_cell_low id packet.long packet.fits _
  high := by
    rw [← reversed.ipHeader 23 (by omega), forward]
    exact callback_cell_high id packet.long packet.fits _
  periodic i lower inside := by
    have body := reversed.body (packet.length - 1 - (i + (4 * ihl - 20))) (by omega)
    rw [forward_cell_body id packet (by omega) (by omega)] at body
    have source :
        packet.length + 27 - (4 * ihl + 8 + (packet.length - 1 - (i + (4 * ihl - 20)))) = i := by
      omega
    rw [source] at body
    rw [body]
    congr 1
    omega
  symmetric i lower upper notLow notHigh := by
    have hasBody := packet.hasBody
    rw [← forward_cell_body id packet lower (by omega)]
    by_cases header : i < 4 * ihl
    · exact (reversed.ipHeader i header).symm
    · exact (reversed.icmpHeader i (by omega) upper notLow notHigh).symm

private theorem bodyReversed_of_optionsCoincide (withOptions : 6 ≤ ihl)
    (coincide : OptionsCoincide packet) : BodyReversed packet (forward id packet) where
  length := callback_dataLength id packet.fits _
  ipHeader i header := by
    have hasBody := packet.hasBody
    by_cases low : i = 22
    · subst low
      rw [coincide.low]
      exact callback_cell_low id packet.long packet.fits _
    · by_cases high : i = 23
      · subst high
        rw [coincide.high]
        exact callback_cell_high id packet.long packet.fits _
      · by_cases body : 28 ≤ i
        · rw [forward_cell_body id packet body (by omega)]
          exact (coincide.symmetric i body (by omega) (by omega) (by omega)).symm
        · exact forward_cell_header id packet (by omega) low high
  icmpHeader i lower upper notLow notHigh := by
    have hasBody := packet.hasBody
    by_cases body : 28 ≤ i
    · rw [forward_cell_body id packet body (by omega)]
      exact (coincide.symmetric i body upper notLow notHigh).symm
    · exact forward_cell_header id packet (by omega) (by omega) (by omega)
  body i inside := by
    rw [forward_cell_body id packet (by omega) (by omega),
      coincide.periodic _ (by omega) (by omega)]
    congr 1
    omega

/-- `callback` reverses the ICMP body and nothing else exactly on the packets
without IP options, apart from packets whose options and message coincide. -/
theorem forward_reverses_body_iff :
    BodyReversed packet (forward id packet) ↔ ihl = 5 ∨ OptionsCoincide packet := by
  have options := packet.options
  by_cases plain : ihl = 5
  · subst plain
    exact ⟨fun _ => .inl rfl, fun _ => bodyReversed_of_no_options id packet⟩
  · have withOptions : 6 ≤ ihl := by omega
    constructor
    · exact fun reversed => .inr (optionsCoincide_of_bodyReversed id packet withOptions reversed)
    · intro either
      rcases either with same | coincide
      · exact absurd same plain
      · exact bodyReversed_of_optionsCoincide id packet withOptions coincide

end Frame

def requestWithOptions : IcmpPacket 6 where
  cell i := [0x46, 0, 0, 34, 0, 0, 0, 0, 64, 1, 121, 216, 127, 0, 0, 1, 127, 0, 0, 1,
    1, 1, 1, 0, 8, 0, 0x92, 0x97, 1, 2, 3, 4, 97, 98].getD i 0
  length := 34
  options := by decide
  versionAndLength := by decide
  protocol := by decide
  headerChecksum := by
    rw [internetChecksum_fst, checksum_eq_zero_iff]
    decide
  hasBody := by decide
  fits := by decide

/-- The identifier of the request comes back as the end of its body. -/
theorem requestWithOptions_not_reversed :
    ¬ BodyReversed requestWithOptions (forward 0 requestWithOptions) := by
  intro reversed
  have identifier := reversed.icmpHeader 28 (by decide) (by decide) (by decide) (by decide)
  rw [forward_cell_body 0 requestWithOptions (by decide) (by decide)] at identifier
  exact absurd identifier (by decide)

end NetworkServices.Netfilter
