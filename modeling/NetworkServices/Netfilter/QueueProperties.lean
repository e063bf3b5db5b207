import NetworkServices.Netfilter.Queue
import NetworkServices.Checksum.InternetChecksumProperties
import Mathlib.Tactic.IntervalCases

/-! What the routines of `libqueue.c` compute and which offsets they touch, and
from these the bytes and the offsets of `callback`. -/

set_option autoImplicit false

namespace NetworkServices.Netfilter

open OnesComplement

theorem accumulate_fst (memory : Memory UInt8) (addr count sum : Nat) :
    (accumulate memory addr count sum).1 = sum + wordSum (slice memory.cell addr count) := by
  induction memory, addr, count, sum using accumulate.induct with
  | case1 memory addr count sum low high ih =>
      rw [accumulate, ih, slice_succ, slice_succ, wordSum_cons_cons]
      simp only [low, high, Memory.read_fst, Memory.read_snd_cell, Nat.add_assoc, Nat.reduceAdd]
  | case2 memory addr sum => simp [accumulate, slice_succ]
  | case3 memory addr sum => simp [accumulate]

@[simp] theorem accumulate_cell (memory : Memory UInt8) (addr count sum : Nat) :
    (accumulate memory addr count sum).2.cell = memory.cell := by
  induction memory, addr, count, sum using accumulate.induct with
  | case1 memory addr count sum low high ih => rw [accumulate, ih]; rfl
  | case2 memory addr sum => rfl
  | case3 memory addr sum => rfl

theorem mem_accumulate_touched (memory : Memory UInt8) (addr count sum i : Nat) :
    i ∈ (accumulate memory addr count sum).2.touched ↔
      i ∈ memory.touched ∨ (addr ≤ i ∧ i < addr + count) := by
  induction memory, addr, count, sum using accumulate.induct with
  | case1 memory addr count sum low high ih =>
      rw [accumulate, ih]
      simp only [low, high, Memory.read_snd_touched, List.mem_cons]
      grind
  | case2 memory addr sum =>
      simp only [accumulate, Memory.read_snd_touched, List.mem_cons]
      grind
  | case3 memory addr sum =>
      simp only [accumulate]
      grind

/-- No partial sum of a packet leaves the nonnegative range of `int`. -/
theorem accumulate_int_range (memory : Memory UInt8) (addr : Nat) {count : Nat}
    (short : count ≤ 65535) : (accumulate memory addr count 0).1 < 2 ^ 31 := by
  have bound := wordSum_le (slice memory.cell addr count)
  rw [slice_length] at bound
  rw [accumulate_fst]
  omega

@[simp] theorem internetChecksum_fst (memory : Memory UInt8) (addr count : Nat) :
    (internetChecksum memory addr count).1 = checksum (slice memory.cell addr count) := by
  simp [internetChecksum, accumulate_fst, checksum]

/-- On a little-endian host the routine of the queue program is the one of `checksum.h`. -/
theorem internetChecksum_fst_eq (memory : Memory UInt8) (addr : Nat) {count : Nat}
    (short : count ≤ 65535) :
    Checksum.internetChecksum .littleEndian (slice memory.cell addr count) 3 =
      .inr (some (internetChecksum memory addr count).1) := by
  rw [Checksum.internetChecksum_eq .littleEndian (by rwa [slice_length]), internetChecksum_fst]
  rfl

@[simp] theorem internetChecksum_cell (memory : Memory UInt8) (addr : Nat) (count : Int) :
    (internetChecksum memory addr count).2.cell = memory.cell :=
  accumulate_cell memory addr count.toNat 0

theorem mem_internetChecksum_touched (memory : Memory UInt8) (addr count i : Nat) :
    i ∈ (internetChecksum memory addr count).2.touched ↔
      i ∈ memory.touched ∨ (addr ≤ i ∧ i < addr + count) :=
  mem_accumulate_touched memory addr count 0 i

theorem swapLoop_cell (memory : Memory UInt8) (head tail : Nat) :
    (swapLoop memory head tail).cell = mirror memory.cell head tail := by
  induction memory, head, tail using swapLoop.induct with
  | case1 memory head tail apart tmp last ih =>
      rw [swapLoop, if_pos apart, ih]
      exact mirror_swap_ends memory.cell apart
  | case2 memory head tail met =>
      rw [swapLoop, if_neg met, mirror_of_le (Nat.le_of_not_lt met)]

theorem swapLoop_touched_subset (memory : Memory UInt8) (head tail i : Nat)
    (touched : i ∈ (swapLoop memory head tail).touched) :
    i ∈ memory.touched ∨ (head ≤ i ∧ i ≤ tail) := by
  induction memory, head, tail using swapLoop.induct with
  | case1 memory head tail apart tmp last ih =>
      rw [swapLoop, if_pos apart] at touched
      rcases ih touched with inner | inner
      · simp only [last, tmp, Memory.write_touched, Memory.read_snd_touched,
          List.mem_cons] at inner
        grind
      · exact .inr ⟨by omega, by omega⟩
  | case2 memory head tail met =>
      rw [swapLoop, if_neg met] at touched
      exact .inl touched

theorem touched_subset_swapLoop (memory : Memory UInt8) (head tail i : Nat)
    (touched : i ∈ memory.touched) : i ∈ (swapLoop memory head tail).touched := by
  induction memory, head, tail using swapLoop.induct with
  | case1 memory head tail apart tmp last ih =>
      rw [swapLoop, if_pos apart]
      apply ih
      simp [last, tmp, touched]
  | case2 memory head tail met =>
      rw [swapLoop, if_neg met]
      exact touched

theorem swapLoop_touches_head (memory : Memory UInt8) {head tail : Nat} (apart : head < tail) :
    head ∈ (swapLoop memory head tail).touched := by
  rw [swapLoop, if_pos apart]
  apply touched_subset_swapLoop
  simp

@[simp] theorem storeShort_cell (memory : Memory UInt8) (offset : Nat) (value : UInt16) :
    (storeShort memory offset value).cell =
      Function.update (Function.update memory.cell offset value.toUInt8) (offset + 1)
        (value >>> 8).toUInt8 := rfl

theorem mem_storeShort_touched (memory : Memory UInt8) (offset i : Nat) (value : UInt16) :
    i ∈ (storeShort memory offset value).touched ↔
      i ∈ memory.touched ∨ i = offset ∨ i = offset + 1 := by
  simp only [storeShort, Memory.write_touched, List.mem_cons]
  tauto

/-- An aligned word stands alone in the sum of any slice that contains it. -/
theorem wordSum_slice_split (cell : Nat → UInt8) (start back : Nat) {front : Nat}
    (aligned : Even front) :
    wordSum (slice cell start (front + (2 + back))) =
      wordSum (slice cell start front) + ((cell (start + front)).toNat +
        256 * (cell (start + front + 1)).toNat +
          wordSum (slice cell (start + front + 2) back)) := by
  rw [slice_add, wordSum_append (by rwa [slice_length]), Nat.add_comm 2 back, slice_succ,
    slice_succ, wordSum_cons_cons]

/-- A word stored over a zeroed one adds itself to every aligned sum around it. -/
theorem wordSum_slice_store {cell : Nat → UInt8} (start front : Nat) {back : Nat}
    (aligned : Even front) (lowClear : cell (start + front) = 0)
    (highClear : cell (start + front + 1) = 0) (value : UInt16) :
    wordSum (slice (Function.update (Function.update cell (start + front) value.toUInt8)
      (start + front + 1) (value >>> 8).toUInt8) start (front + (2 + back))) =
      wordSum (slice cell start (front + (2 + back))) + value.toNat := by
  have before : slice (Function.update (Function.update cell (start + front) value.toUInt8)
      (start + front + 1) (value >>> 8).toUInt8) start front = slice cell start front :=
    slice_congr fun i _ upper => by
      rw [Function.update_of_ne (by omega), Function.update_of_ne (by omega)]
  have after : slice (Function.update (Function.update cell (start + front) value.toUInt8)
      (start + front + 1) (value >>> 8).toUInt8) (start + front + 2) back =
      slice cell (start + front + 2) back :=
    slice_congr fun i lower _ => by
      rw [Function.update_of_ne (by omega), Function.update_of_ne (by omega)]
  have bytes := ByteOrder.store_toNat value
  rw [wordSum_slice_split _ start back aligned, wordSum_slice_split cell start back aligned,
    before, after, Function.update_self, Function.update_of_ne (by omega),
    Function.update_self, lowClear, highClear]
  simp only [UInt8.toNat_zero]
  omega

end NetworkServices.Netfilter
