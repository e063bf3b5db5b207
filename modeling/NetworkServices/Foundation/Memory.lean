import Mathlib.Logic.Function.Basic
import Mathlib.Data.List.Range

/-! A flat memory that records which offsets a program touches, slices of it as
lists, and the in-place reversal performed by two pointers that meet. -/

set_option autoImplicit false

namespace NetworkServices

/-- Cells at offsets from one base pointer, with every offset read or written so
far, the latest first. No offset is refused: staying inside an object is a
property of the recorded offsets. -/
structure Memory (α : Type) where
  cell : Nat → α
  touched : List Nat

namespace Memory

variable {α : Type}

def read (memory : Memory α) (offset : Nat) : α × Memory α :=
  (memory.cell offset, { memory with touched := offset :: memory.touched })

def write (memory : Memory α) (offset : Nat) (value : α) : Memory α :=
  { cell := Function.update memory.cell offset value, touched := offset :: memory.touched }

@[simp] theorem read_fst (memory : Memory α) (offset : Nat) :
    (memory.read offset).1 = memory.cell offset := rfl

@[simp] theorem read_snd_cell (memory : Memory α) (offset : Nat) :
    (memory.read offset).2.cell = memory.cell := rfl

@[simp] theorem read_snd_touched (memory : Memory α) (offset : Nat) :
    (memory.read offset).2.touched = offset :: memory.touched := rfl

@[simp] theorem write_cell (memory : Memory α) (offset : Nat) (value : α) :
    (memory.write offset value).cell = Function.update memory.cell offset value := rfl

@[simp] theorem write_touched (memory : Memory α) (offset : Nat) (value : α) :
    (memory.write offset value).touched = offset :: memory.touched := rfl

end Memory

section Slice

variable {α : Type}

def slice (cell : Nat → α) (start count : Nat) : List α :=
  (List.range' start count).map cell

@[simp] theorem slice_zero (cell : Nat → α) (start : Nat) : slice cell start 0 = [] := rfl

theorem slice_succ (cell : Nat → α) (start count : Nat) :
    slice cell start (count + 1) = cell start :: slice cell (start + 1) count := rfl

@[simp] theorem slice_length (cell : Nat → α) (start count : Nat) :
    (slice cell start count).length = count := by
  simp [slice]

theorem slice_add (cell : Nat → α) (start front back : Nat) :
    slice cell start (front + back) = slice cell start front ++ slice cell (start + front) back := by
  simp [slice, ← List.range'_append_1]

theorem mem_slice {cell : Nat → α} {start count : Nat} {value : α} :
    value ∈ slice cell start count ↔ ∃ i, start ≤ i ∧ i < start + count ∧ cell i = value := by
  simp [slice, List.mem_range'_1, and_assoc]

theorem slice_congr {left right : Nat → α} {start count : Nat}
    (agree : ∀ i, start ≤ i → i < start + count → left i = right i) :
    slice left start count = slice right start count := by
  refine List.map_congr_left fun i member => ?_
  obtain ⟨lower, upper⟩ := List.mem_range'_1.mp member
  exact agree i lower upper

end Slice

section Mirror

variable {α : Type}

/-- The cells from `head` to `tail` inclusive in the opposite order. -/
def mirror (cell : Nat → α) (head tail : Nat) : Nat → α := fun i =>
  if head ≤ i ∧ i ≤ tail then cell (head + tail - i) else cell i

theorem mirror_inside {cell : Nat → α} {head tail i : Nat} (lower : head ≤ i) (upper : i ≤ tail) :
    mirror cell head tail i = cell (head + tail - i) :=
  if_pos ⟨lower, upper⟩

theorem mirror_outside {cell : Nat → α} {head tail i : Nat} (outside : ¬ (head ≤ i ∧ i ≤ tail)) :
    mirror cell head tail i = cell i :=
  if_neg outside

theorem mirror_of_le {cell : Nat → α} {head tail : Nat} (met : tail ≤ head) :
    mirror cell head tail = cell := by
  funext i
  by_cases inside : head ≤ i ∧ i ≤ tail
  · have fixed : head + tail - i = i := by omega
    rw [mirror_inside inside.1 inside.2, fixed]
  · exact mirror_outside inside

theorem mirror_mirror (cell : Nat → α) (head tail : Nat) :
    mirror (mirror cell head tail) head tail = cell := by
  funext i
  by_cases inside : head ≤ i ∧ i ≤ tail
  · have back : head + tail - (head + tail - i) = i := by omega
    rw [mirror_inside inside.1 inside.2, mirror_inside (by omega) (by omega), back]
  · rw [mirror_outside inside, mirror_outside inside]

/-- A mirrored range is not affected by what changes outside it. -/
theorem mirror_update {cell : Nat → α} {head tail i : Nat} (outside : i < head) (value : α) :
    mirror (Function.update cell i value) head tail =
      Function.update (mirror cell head tail) i value := by
  funext j
  by_cases same : j = i
  · subst same
    rw [mirror_outside (by omega), Function.update_self, Function.update_self]
  · rw [Function.update_of_ne same]
    by_cases inside : head ≤ j ∧ j ≤ tail
    · rw [mirror_inside inside.1 inside.2, mirror_inside inside.1 inside.2,
        Function.update_of_ne (by omega)]
    · rw [mirror_outside inside, mirror_outside inside, Function.update_of_ne same]

/-- Exchanging the two ends leaves the range strictly between them to mirror. -/
theorem mirror_swap_ends (cell : Nat → α) {head tail : Nat} (apart : head < tail) :
    mirror (Function.update (Function.update cell head (cell tail)) tail (cell head))
      (head + 1) (tail - 1) = mirror cell head tail := by
  funext i
  by_cases inner : head + 1 ≤ i ∧ i ≤ tail - 1
  · have notTail : head + 1 + (tail - 1) - i ≠ tail := by omega
    have notHead : head + 1 + (tail - 1) - i ≠ head := by omega
    have sameCentre : head + 1 + (tail - 1) - i = head + tail - i := by omega
    rw [mirror_inside inner.1 inner.2, mirror_inside (by omega) (by omega),
      Function.update_of_ne notTail, Function.update_of_ne notHead, sameCentre]
  · rw [mirror_outside inner]
    by_cases atTail : i = tail
    · subst atTail
      rw [Function.update_self, mirror_inside (by omega) (by omega), Nat.add_sub_cancel]
    · rw [Function.update_of_ne atTail]
      by_cases atHead : i = head
      · subst atHead
        rw [Function.update_self, mirror_inside (by omega) (by omega), Nat.add_sub_cancel_left]
      · rw [Function.update_of_ne atHead, mirror_outside (by omega)]

end Mirror

end NetworkServices
