import Mathlib.Data.List.Basic
import Mathlib.Data.List.Nodup

/-! `std::vector` as contiguous slots. A slot behind the end keeps its value, so a
loop that goes past the end of a vector it has shortened sees old elements. -/

set_option autoImplicit false

namespace NetworkServices

structure SlotVector (α : Type) where
  slots : List α
  size : Nat
  size_le : size ≤ slots.length

namespace SlotVector

variable {α : Type}

/-- What a program that stays inside the vector can see. -/
def elements (vector : SlotVector α) : List α :=
  vector.slots.take vector.size

theorem length_elements (vector : SlotVector α) : vector.elements.length = vector.size := by
  rw [elements, List.length_take, Nat.min_eq_left vector.size_le]

def empty : SlotVector α :=
  ⟨[], 0, Nat.le_refl _⟩

@[simp] theorem elements_empty : (empty : SlotVector α).elements = [] := rfl

def pushBack (vector : SlotVector α) (value : α) : SlotVector α where
  slots := vector.elements ++ value :: vector.slots.drop (vector.size + 1)
  size := vector.size + 1
  size_le := by
    rw [List.length_append, List.length_cons, length_elements]
    omega

@[simp] theorem pushBack_size (vector : SlotVector α) (value : α) :
    (vector.pushBack value).size = vector.size + 1 := rfl

@[simp] theorem elements_pushBack (vector : SlotVector α) (value : α) :
    (vector.pushBack value).elements = vector.elements ++ [value] := by
  have front : vector.size + 1 = (vector.elements ++ [value]).length := by
    rw [List.length_append, length_elements, List.length_singleton]
  change List.take (vector.size + 1)
    (vector.elements ++ value :: vector.slots.drop (vector.size + 1)) = _
  rw [List.append_cons vector.elements value, front, List.take_left]

/-- `erase` of the element at a position inside the vector: those behind it move one
slot to the left. -/
def eraseAt (vector : SlotVector α) (position : Nat) (inside : position < vector.size) :
    SlotVector α where
  slots := vector.elements.eraseIdx position ++ vector.slots.drop (vector.size - 1)
  size := vector.size - 1
  size_le := by
    have bound := vector.size_le
    rw [List.length_append, List.length_drop, List.length_eraseIdx, length_elements, if_pos inside]
    omega

section EraseAt

variable {vector : SlotVector α} {position : Nat} (inside : position < vector.size)

@[simp] theorem eraseAt_size : (vector.eraseAt position inside).size = vector.size - 1 := rfl

theorem eraseAt_length : (vector.eraseAt position inside).slots.length = vector.slots.length := by
  have bound := vector.size_le
  rw [eraseAt, List.length_append, List.length_drop, List.length_eraseIdx, length_elements,
    if_pos inside]
  omega

@[simp] theorem elements_eraseAt :
    (vector.eraseAt position inside).elements = vector.elements.eraseIdx position := by
  have front : vector.size - 1 = (vector.elements.eraseIdx position).length := by
    rw [List.length_eraseIdx, length_elements, if_pos inside]
  change List.take (vector.size - 1) (vector.elements.eraseIdx position ++ _) = _
  rw [front, List.take_left]

theorem mem_take_eraseAt {count : Nat} (whole : vector.size ≤ count) {value : α}
    (member : value ∈ (vector.eraseAt position inside).slots.take count) :
    value ∈ vector.slots.take count := by
  have front : (vector.elements.eraseIdx position).length = vector.size - 1 := by
    rw [List.length_eraseIdx, length_elements, if_pos inside]
  rw [eraseAt, List.take_append, List.mem_append] at member
  rcases member with moved | stale
  · have kept := List.mem_of_mem_eraseIdx (List.mem_of_mem_take moved)
    exact (List.take_sublist_take_left whole).subset kept
  · rw [front, List.take_drop] at stale
    have reach : vector.size - 1 + (count - (vector.size - 1)) = count := by omega
    rw [reach] at stale
    exact List.mem_of_mem_drop stale

/-- The last slot is copied to the left, not cleared. -/
theorem getElem?_eraseAt {slot : Nat} (late : vector.size ≤ slot + 1) :
    (vector.eraseAt position inside).slots[slot]? = vector.slots[slot]? := by
  have front : (vector.elements.eraseIdx position).length = vector.size - 1 := by
    rw [List.length_eraseIdx, length_elements, if_pos inside]
  have behind : vector.size - 1 ≤ slot := by omega
  have reach : vector.size - 1 + (slot - (vector.size - 1)) = slot := by omega
  rw [eraseAt, List.getElem?_append_right (by rw [front]; exact behind), front,
    List.getElem?_drop, reach]

end EraseAt

section Find

variable [DecidableEq α]

/-- `erase(find(begin(), end(), value))`. Without such an element `find` returns the
end, which must not be erased. -/
def eraseValue (vector : SlotVector α) (value : α) : Option (SlotVector α) :=
  if inside : vector.elements.idxOf value < vector.size then
    some (vector.eraseAt (vector.elements.idxOf value) inside)
  else none

structure Erased (vector : SlotVector α) (value : α) (shorter : SlotVector α) : Prop where
  elements : shorter.elements = vector.elements.erase value
  size : shorter.size = vector.size - 1
  length : shorter.slots.length = vector.slots.length
  slots : ∀ count, vector.size ≤ count → ∀ other ∈ shorter.slots.take count,
    other ∈ vector.slots.take count

theorem eraseValue_of_mem {vector : SlotVector α} {value : α} (member : value ∈ vector.elements) :
    ∃ shorter, vector.eraseValue value = some shorter ∧ Erased vector value shorter := by
  have inside : vector.elements.idxOf value < vector.size := by
    rw [← length_elements]
    exact List.idxOf_lt_length_iff.mpr member
  refine ⟨_, dif_pos inside, ?_, rfl, eraseAt_length inside, ?_⟩
  · rw [elements_eraseAt, ← List.erase_eq_eraseIdx_of_idxOf rfl]
  · exact fun count whole other => mem_take_eraseAt inside whole

theorem eraseValue_eq_some {vector shorter : SlotVector α} {value : α}
    (erased : vector.eraseValue value = some shorter) :
    ∃ inside, shorter = vector.eraseAt (vector.elements.idxOf value) inside := by
  rw [eraseValue] at erased
  split at erased
  · next inside =>
      cases erased
      exact ⟨inside, rfl⟩
  · cases erased

end Find

end SlotVector

end NetworkServices
