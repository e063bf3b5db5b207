import NetworkServices.Netfilter.QueueProperties

/-! The bytes `callback` hands back and the offsets it touches. The sizes in the
code are those of an IP header without options and of an ICMP header, so the
rewritten body always starts at offset 28 and the checksum is always at 22. -/

set_option autoImplicit false

namespace NetworkServices.Netfilter

open OnesComplement

private theorem packetSize_eq {n : Nat} (short : n ≤ 65535) :
    UInt64.ofInt n = UInt64.ofNat n := by
  unfold UInt64.ofInt
  congr 1
  omega

private theorem summedCount_eq {n : Nat} (short : n ≤ 65535) :
    (UInt64.ofInt n).toUInt32.toInt32.toInt = n := by
  rw [packetSize_eq short, UInt64.toUInt32_ofNat', UInt32.toInt32_ofNat',
    Int32.toInt_ofNat_of_lt (by omega)]

private theorem dataLength_eq {n : Nat} (short : n ≤ 65535) :
    (UInt64.ofInt n).toUInt32.toNat = n := by
  rw [packetSize_eq short, UInt64.toNat_toUInt32, UInt64.toNat_ofNat']
  omega

private theorem tailIndex_eq {n : Nat} (short : n ≤ 65535) :
    ((UInt64.ofInt n - (icmpHeaderSize + ipHeaderSize)).toUInt32 - 1).toNat =
      (n + (2 ^ 32 - 29)) % 2 ^ 32 := by
  have headers : (icmpHeaderSize + ipHeaderSize).toNat = 28 := by decide
  rw [packetSize_eq short, UInt32.toNat_sub, UInt64.toNat_toUInt32, UInt64.toNat_sub,
    UInt64.toNat_ofNat', headers, UInt32.toNat_one]
  omega

/-- The packet after the swap and the zeroing, from which the checksum is taken. -/
def cleared (cell : Nat → UInt8) (n : Nat) : Nat → UInt8 :=
  Function.update (Function.update (mirror cell 28 (n - 1)) 22 0) 23 0

/-- The checksum `callback` stores: the one of the whole packet, IP header
included. -/
def storedChecksum (cell : Nat → UInt8) (n : Nat) : UInt16 :=
  checksum (slice (cleared cell n) 0 n)

theorem callback_cell (id : UInt32) {n : Nat} (long : 29 ≤ n) (short : n ≤ 65535)
    (memory : Memory UInt8) :
    (callback id n memory).memory.cell =
      Function.update (Function.update (cleared memory.cell n) 22
        (storedChecksum memory.cell n).toUInt8) 23
        (storedChecksum memory.cell n >>> 8).toUInt8 := by
  have headers : (icmpHeaderSize + ipHeaderSize).toNat = 28 := by decide
  have header : ipHeaderSize.toNat = 20 := by decide
  have tail : 28 + (n + (2 ^ 32 - 29)) % 2 ^ 32 = n - 1 := by omega
  simp only [callback, storeShort_cell, internetChecksum_cell, summedCount_eq short,
    internetChecksum_fst, swapBytes, swapLoop_cell, tailIndex_eq short, headers, header, tail,
    checksumOffset, Nat.reduceAdd]
  rfl

theorem callback_dataLength (id : UInt32) {n : Nat} (short : n ≤ 65535) (memory : Memory UInt8) :
    (callback id n memory).dataLength.toNat = n :=
  dataLength_eq short

theorem cleared_header {cell : Nat → UInt8} {n i : Nat} (header : i < 28)
    (notLow : i ≠ 22) (notHigh : i ≠ 23) : cleared cell n i = cell i := by
  rw [cleared, Function.update_of_ne notHigh, Function.update_of_ne notLow,
    mirror_outside (by omega)]

theorem cleared_body {cell : Nat → UInt8} {n i : Nat} (body : 28 ≤ i) (inside : i < n) :
    cleared cell n i = cell (n + 27 - i) := by
  rw [cleared, Function.update_of_ne (by omega), Function.update_of_ne (by omega),
    mirror_inside body (by omega)]
  congr 1
  omega

theorem cleared_low (cell : Nat → UInt8) (n : Nat) : cleared cell n 22 = 0 := by
  rw [cleared, Function.update_of_ne (by omega), Function.update_self]

theorem cleared_high (cell : Nat → UInt8) (n : Nat) : cleared cell n 23 = 0 := by
  rw [cleared, Function.update_self]

section InRange

variable (id : UInt32) {n : Nat} (long : 29 ≤ n) (short : n ≤ 65535) (memory : Memory UInt8)

include long short

theorem callback_cell_low :
    (callback id n memory).memory.cell 22 = (storedChecksum memory.cell n).toUInt8 := by
  rw [callback_cell id long short, Function.update_of_ne (by omega), Function.update_self]

theorem callback_cell_high :
    (callback id n memory).memory.cell 23 = (storedChecksum memory.cell n >>> 8).toUInt8 := by
  rw [callback_cell id long short, Function.update_self]

theorem callback_cell_cleared {i : Nat} (notLow : i ≠ 22) (notHigh : i ≠ 23) :
    (callback id n memory).memory.cell i = cleared memory.cell n i := by
  rw [callback_cell id long short, Function.update_of_ne notHigh, Function.update_of_ne notLow]

end InRange

/-- Every offset of a call: those of the swap, the checksum field, and the whole
packet for the sum. -/
theorem mem_callback_touched (id : UInt32) {n : Nat} (short : n ≤ 65535)
    (memory : Memory UInt8) (i : Nat) :
    i ∈ (callback id n memory).memory.touched ↔
      i ∈ (swapLoop memory 28 (28 + (n + (2 ^ 32 - 29)) % 2 ^ 32)).touched ∨
        i = 22 ∨ i = 23 ∨ i < n := by
  have headers : (icmpHeaderSize + ipHeaderSize).toNat = 28 := by decide
  have header : ipHeaderSize.toNat = 20 := by decide
  simp only [callback, mem_storeShort_touched, summedCount_eq short,
    mem_internetChecksum_touched, swapBytes, tailIndex_eq short, headers, header,
    checksumOffset, Nat.reduceAdd, Nat.zero_le, true_and, Nat.zero_add]
  tauto

theorem callback_inside_iff (id : UInt32) {n : Nat} (short : n ≤ 65535) (cell : Nat → UInt8) :
    (∀ offset ∈ (callback id n ⟨cell, []⟩).memory.touched, offset < n) ↔ 29 ≤ n := by
  constructor
  · intro inside
    by_contra truncated
    -- The first byte swapped is `*head` at offset 28, outside every packet this short.
    have head : 28 ∈ (callback id n ⟨cell, []⟩).memory.touched := by
      rw [mem_callback_touched id short]
      exact .inl (swapLoop_touches_head _ (by omega))
    have := inside 28 head
    omega
  · intro long offset touched
    rw [mem_callback_touched id short] at touched
    rcases touched with swapped | low | high | summed
    · rcases swapLoop_touched_subset _ _ _ _ swapped with never | ⟨_, upper⟩
      · simp at never
      · omega
    · omega
    · omega
    · exact summed

/-- `callback` stays inside the packet exactly when the packet has a body byte:
one byte less and the unsigned length of the body wraps around. -/
theorem callback_touches_only_packet_iff (id : UInt32) {n : Nat} (short : n ≤ 65535)
    (cell : Nat → UInt8) :
    (∀ offset ∈ (callback id n ⟨cell, []⟩).memory.touched, offset < n) ↔ 29 ≤ n :=
  callback_inside_iff id short cell

theorem callback_touches_only_packet_iff_long :
    (65535 : Nat) ≤ 65535 ∧
      ((∀ offset ∈ (callback 0 (65535 : Nat) ⟨fun _ => 0, []⟩).memory.touched, offset < 65535) ↔
        29 ≤ 65535) :=
  ⟨by decide, callback_touches_only_packet_iff 0 (by decide) _⟩

theorem callback_leaves_packet_without_body :
    ¬ ∀ offset ∈ (callback 0 (28 : Nat) ⟨fun _ => 0, []⟩).memory.touched, offset < 28 := by
  intro inside
  have head : 28 ∈ (callback 0 (28 : Nat) ⟨fun _ => 0, []⟩).memory.touched := by
    rw [mem_callback_touched 0 (by decide)]
    exact .inl (swapLoop_touches_head _ (by decide))
  exact absurd (inside 28 head) (by decide)

end NetworkServices.Netfilter
