import Mathlib.Data.List.Basic

/-! The descriptor table of a process. A new descriptor is the lowest one that is not
open, so a descriptor that was closed comes back with another meaning. -/

set_option autoImplicit false

namespace NetworkServices

/-- What each descriptor refers to. Behind the last slot nothing is open. -/
structure DescriptorTable (File : Type) where
  slots : List (Option File)

namespace DescriptorTable

variable {File : Type}

def lookup (table : DescriptorTable File) (fd : Nat) : Option File :=
  table.slots[fd]?.join

def lowestFree (table : DescriptorTable File) : Nat :=
  table.slots.findIdx Option.isNone

def allocate (table : DescriptorTable File) (file : File) : Nat × DescriptorTable File :=
  (table.lowestFree,
    ⟨if table.lowestFree < table.slots.length then table.slots.set table.lowestFree (some file)
      else table.slots ++ [some file]⟩)

def close (table : DescriptorTable File) (fd : Nat) : DescriptorTable File :=
  ⟨table.slots.set fd none⟩

def openCount (table : DescriptorTable File) : Nat :=
  table.slots.countP Option.isSome

section Lookup

variable (table : DescriptorTable File) (file : File) (fd : Nat)

theorem lookup_allocate : (table.allocate file).2.lookup table.lowestFree = some file := by
  unfold allocate lookup
  split
  · next inside => rw [List.getElem?_set_self inside]; rfl
  · next outside =>
      have last : table.lowestFree = table.slots.length :=
        Nat.le_antisymm List.findIdx_le_length (Nat.le_of_not_lt outside)
      rw [last, List.getElem?_concat_length]
      rfl

theorem lookup_allocate_of_ne {table : DescriptorTable File} (file : File) {fd : Nat}
    (ne : fd ≠ table.lowestFree) : (table.allocate file).2.lookup fd = table.lookup fd := by
  unfold allocate lookup
  split
  · rw [List.getElem?_set_ne (Ne.symm ne)]
  · next outside =>
      have last : table.lowestFree = table.slots.length :=
        Nat.le_antisymm List.findIdx_le_length (Nat.le_of_not_lt outside)
      rcases Nat.lt_or_gt_of_ne (last ▸ ne) with inside | beyond
      · rw [List.getElem?_append_left inside]
      · rw [List.getElem?_eq_none (Nat.le_of_lt beyond), List.getElem?_eq_none]
        rw [List.length_append, List.length_singleton]
        exact beyond

@[simp] theorem lookup_close_self : (table.close fd).lookup fd = none := by
  unfold close lookup
  rw [List.getElem?_set_self']
  cases table.slots[fd]? <;> rfl

theorem lookup_close_of_ne {table : DescriptorTable File} {fd other : Nat} (ne : other ≠ fd) :
    (table.close fd).lookup other = table.lookup other := by
  unfold close lookup
  rw [List.getElem?_set_ne (Ne.symm ne)]

theorem lookup_of_lt_lowestFree {table : DescriptorTable File} {fd : Nat}
    (below : fd < table.lowestFree) : table.lookup fd ≠ none := by
  have bound : fd < table.slots.length := Nat.lt_of_lt_of_le below List.findIdx_le_length
  have used := List.not_of_lt_findIdx below
  intro free
  rw [lookup, List.getElem?_eq_getElem bound, Option.join_some] at free
  rw [free] at used
  cases used

theorem lookup_lowestFree : table.lookup table.lowestFree = none := by
  rcases Nat.lt_or_ge table.lowestFree table.slots.length with inside | outside
  · have free : (table.slots[table.lowestFree]).isNone := List.findIdx_getElem
    rw [lookup, List.getElem?_eq_getElem inside, Option.join_some]
    exact Option.isNone_iff_eq_none.mp free
  · rw [lookup, List.getElem?_eq_none outside]
    rfl

theorem lowestFree_eq_zero_iff : table.lowestFree = 0 ↔ table.lookup 0 = none := by
  refine ⟨fun zero => ?_, fun free => ?_⟩
  · have lowest := table.lookup_lowestFree
    rwa [zero] at lowest
  · rcases Nat.eq_zero_or_pos table.lowestFree with zero | positive
    · exact zero
    · exact absurd free (lookup_of_lt_lowestFree positive)

/-- Descriptor 0 is open behind any allocation. -/
theorem lookup_zero_allocate :
    (table.allocate file).2.lookup 0 = some ((table.lookup 0).getD file) := by
  cases used : table.lookup 0 with
  | none =>
      have found := table.lookup_allocate file
      rwa [table.lowestFree_eq_zero_iff.mpr used] at found
  | some target =>
      have other : table.lowestFree ≠ 0 := by
        rw [Ne, table.lowestFree_eq_zero_iff, used]
        exact Option.some_ne_none target
      exact (lookup_allocate_of_ne file (Ne.symm other)).trans used

end Lookup

section OpenCount

theorem openCount_set {slots : List (Option File)} {fd : Nat} (inside : fd < slots.length)
    (slot : Option File) :
    (slots.set fd slot).countP Option.isSome + (if slots[fd].isSome then 1 else 0) =
      slots.countP Option.isSome + if slot.isSome then 1 else 0 := by
  induction slots generalizing fd with
  | nil => simp at inside
  | cons head rest ih =>
      cases fd with
      | zero =>
          simp only [List.set_cons_zero, List.getElem_cons_zero, List.countP_cons]
          omega
      | succ fd =>
          have tail := ih (Nat.lt_of_succ_lt_succ inside)
          simp only [List.set_cons_succ, List.getElem_cons_succ, List.countP_cons]
          omega

theorem openCount_allocate (table : DescriptorTable File) (file : File) :
    (table.allocate file).2.openCount = table.openCount + 1 := by
  unfold allocate openCount lowestFree
  split
  · next inside =>
      have free : (table.slots[table.slots.findIdx Option.isNone]).isNone := List.findIdx_getElem
      have counted := openCount_set inside (some file)
      rw [Option.isNone_iff_eq_none.mp free] at counted
      simpa using counted
  · simp

theorem openCount_close {table : DescriptorTable File} {fd : Nat} {file : File}
    (opened : table.lookup fd = some file) : (table.close fd).openCount + 1 = table.openCount := by
  obtain ⟨inside, used⟩ := List.getElem?_eq_some_iff.mp (Option.join_eq_some_iff.mp opened)
  have counted := openCount_set inside none
  rw [used] at counted
  simpa [close, openCount] using counted

end OpenCount

section Limit

theorem openCount_le_length (table : DescriptorTable File) :
    table.openCount ≤ table.slots.length :=
  List.countP_le_length

theorem length_allocate_le {table : DescriptorTable File} {limit : Nat}
    (fits : table.slots.length ≤ limit) (free : table.lowestFree < limit) (file : File) :
    (table.allocate file).2.slots.length ≤ limit := by
  unfold allocate
  split
  · rwa [List.length_set]
  · next outside =>
      have last : table.lowestFree = table.slots.length :=
        Nat.le_antisymm List.findIdx_le_length (Nat.le_of_not_lt outside)
      rw [List.length_append, List.length_singleton, ← last]
      exact free

theorem lowestFree_of_full {table : DescriptorTable File}
    (full : table.slots.length ≤ table.openCount) : table.lowestFree = table.slots.length := by
  have all : table.openCount = table.slots.length :=
    Nat.le_antisymm table.openCount_le_length full
  rw [openCount, List.countP_eq_length] at all
  rw [lowestFree, List.findIdx_eq_length]
  intro slot member
  rw [Option.isNone_eq_false_iff]
  exact all slot member

@[simp] theorem length_close (table : DescriptorTable File) (fd : Nat) :
    (table.close fd).slots.length = table.slots.length :=
  List.length_set

end Limit

end DescriptorTable

end NetworkServices
