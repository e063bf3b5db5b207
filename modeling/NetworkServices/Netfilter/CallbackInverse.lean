import NetworkServices.Netfilter.CallbackProperties

/-! `callback` run again on the packet it handed back. The swap is its own inverse and never
reaches the checksum field, so a second call sums the bytes that came in. -/

set_option autoImplicit false

namespace NetworkServices.Netfilter

open OnesComplement

/-- The checksum of the whole packet with bytes 22 and 23 zeroed. -/
def fieldChecksum (memory : Memory UInt8) (n : Nat) : UInt16 :=
  (internetChecksum (storeShort memory 22 0) 0 n).1

theorem cleared_eq_mirror (cell : Nat → UInt8) (n : Nat) :
    cleared cell n = mirror (Function.update (Function.update cell 22 0) 23 0) 28 (n - 1) := by
  rw [mirror_update (by omega), mirror_update (by omega), cleared]

theorem fieldChecksum_eq (memory : Memory UInt8) (n : Nat) :
    fieldChecksum memory n =
      checksum (slice (Function.update (Function.update memory.cell 22 0) 23 0) 0 n) :=
  internetChecksum_fst (storeShort memory 22 0) 0 n

section Repeated

variable (first second third : UInt32) {n : Nat} (long : 29 ≤ n) (short : n ≤ 65535)
  (memory : Memory UInt8)

include long short

/-- What a call leaves differs from what it sums in the two bytes it zeroed. -/
theorem zeroed_callback :
    Function.update (Function.update (callback first n memory).memory.cell 22 0) 23 0 =
      cleared memory.cell n := by
  funext i
  by_cases high : i = 23
  · subst high
    rw [Function.update_self, cleared_high]
  · rw [Function.update_of_ne high]
    by_cases low : i = 22
    · subst low
      rw [Function.update_self, cleared_low]
    · rw [Function.update_of_ne low, callback_cell_cleared first long short memory low high]

theorem cleared_callback :
    cleared (callback first n memory).memory.cell n =
      Function.update (Function.update memory.cell 22 0) 23 0 := by
  rw [cleared_eq_mirror, zeroed_callback first long short memory, cleared_eq_mirror,
    mirror_mirror]

theorem storedChecksum_callback :
    storedChecksum (callback first n memory).memory.cell n = fieldChecksum memory n := by
  rw [storedChecksum, cleared_callback first long short memory, fieldChecksum_eq]

theorem fieldChecksum_callback :
    fieldChecksum (callback first n memory).memory n = storedChecksum memory.cell n := by
  rw [fieldChecksum_eq, zeroed_callback first long short memory, storedChecksum]

theorem callback_twice_cell {i : Nat} (notLow : i ≠ 22) (notHigh : i ≠ 23) :
    (callback second n (callback first n memory).memory).memory.cell i = memory.cell i := by
  rw [callback_cell_cleared second long short _ notLow notHigh,
    cleared_callback first long short memory, Function.update_of_ne notHigh,
    Function.update_of_ne notLow]

theorem callback_twice_low :
    (callback second n (callback first n memory).memory).memory.cell 22 =
      (fieldChecksum memory n).toUInt8 := by
  rw [callback_cell_low second long short, storedChecksum_callback first long short memory]

theorem callback_twice_high :
    (callback second n (callback first n memory).memory).memory.cell 23 =
      (fieldChecksum memory n >>> 8).toUInt8 := by
  rw [callback_cell_high second long short, storedChecksum_callback first long short memory]

/-- A packet whose field already holds its checksum comes back whole. -/
theorem callback_twice_of_checksum (low : memory.cell 22 = (fieldChecksum memory n).toUInt8)
    (high : memory.cell 23 = (fieldChecksum memory n >>> 8).toUInt8) :
    (callback second n (callback first n memory).memory).memory.cell = memory.cell := by
  funext i
  by_cases atLow : i = 22
  · subst atLow
    rw [callback_twice_low first second long short memory, low]
  · by_cases atHigh : i = 23
    · subst atHigh
      rw [callback_twice_high first second long short memory, high]
    · exact callback_twice_cell first second long short memory atLow atHigh

/-- The first call stored the checksum of what it handed back, so from there on two calls
change nothing. -/
theorem callback_thrice :
    (callback third n (callback second n (callback first n memory).memory).memory).memory.cell =
      (callback first n memory).memory.cell := by
  apply callback_twice_of_checksum second third long short
  · rw [fieldChecksum_callback first long short memory, callback_cell_low first long short]
  · rw [fieldChecksum_callback first long short memory, callback_cell_high first long short]

theorem callback_self_inverse :
    (∀ i, i ≠ 22 → i ≠ 23 →
      (callback second n (callback first n memory).memory).memory.cell i = memory.cell i) ∧
    (callback third n (callback second n (callback first n memory).memory).memory).memory.cell =
      (callback first n memory).memory.cell ∧
    (memory.cell 22 = (fieldChecksum memory n).toUInt8 →
      memory.cell 23 = (fieldChecksum memory n >>> 8).toUInt8 →
      (callback second n (callback first n memory).memory).memory.cell = memory.cell) := by
  refine ⟨?_, ?_, ?_⟩
  · intro i notLow notHigh
    exact callback_twice_cell first second long short memory notLow notHigh
  · exact callback_thrice first second third long short memory
  · exact callback_twice_of_checksum first second long short memory

end Repeated

theorem callback_self_inverse_shortest :
    (29 : Nat) ≤ 65535 ∧
      (callback 3 (29 : Nat) (callback 2 (29 : Nat)
        (callback 1 (29 : Nat) ⟨fun i => UInt8.ofNat i, []⟩).memory).memory).memory.cell =
        (callback 1 (29 : Nat) ⟨fun i => UInt8.ofNat i, []⟩).memory.cell :=
  ⟨by decide, (callback_self_inverse 1 2 3 (by decide) (by decide) _).2.1⟩

end NetworkServices.Netfilter
