import NetworkServices.Foundation.Buffer

/-! Stores into objects of a known size. A store may reach outside of its object; that it
does not is a property of its place. -/

set_option autoImplicit false

namespace NetworkServices

/-- `length` bytes stored from `offset` on into an object of `size` bytes. -/
structure Store (Object : Type) where
  object : Object
  size : Nat
  offset : Int
  length : Nat
  deriving DecidableEq

variable {Object : Type}

def Store.Inside (store : Store Object) : Prop :=
  0 ≤ store.offset ∧ store.offset + store.length ≤ store.size

instance (store : Store Object) : Decidable store.Inside :=
  inferInstanceAs (Decidable (_ ∧ _))

def AllInside (stores : List (Store Object)) : Prop :=
  ∀ store ∈ stores, store.Inside

instance (stores : List (Store Object)) : Decidable (AllInside stores) :=
  inferInstanceAs (Decidable (∀ store ∈ stores, store.Inside))

/-- `strcpy(object, text)`: the text and its terminator. -/
def storeText (object : Object) (size : Nat) (text : CString) : Store Object :=
  ⟨object, size, 0, text.length + 1⟩

/-- `strcat(object, text)` for each text in turn, behind a string of `length` bytes. -/
def appendTexts (object : Object) (size : Nat) : Nat → List CString → List (Store Object)
  | _, [] => []
  | length, text :: texts =>
      ⟨object, size, length, text.length + 1⟩ :: appendTexts object size (length + text.length) texts

section Inside

variable {object : Object} {size : Nat}

theorem allInside_append {first second : List (Store Object)} :
    AllInside (first ++ second) ↔ AllInside first ∧ AllInside second :=
  List.forall_mem_append

theorem allInside_cons {store : Store Object} {stores : List (Store Object)} :
    AllInside (store :: stores) ↔ store.Inside ∧ AllInside stores :=
  List.forall_mem_cons

theorem allInside_nil : AllInside ([] : List (Store Object)) :=
  List.forall_mem_nil _

theorem inside_iff (offset length : Nat) :
    (⟨object, size, offset, length⟩ : Store Object).Inside ↔ offset + length ≤ size := by
  unfold Store.Inside
  dsimp only
  omega

theorem inside_storeText (text : CString) :
    (storeText object size text).Inside ↔ text.length < size := by
  unfold storeText Store.Inside
  dsimp only
  omega

/-- Texts are appended inside of the object when the whole string fits with its
terminator. -/
theorem allInside_appendTexts {length : Nat} (fits : length < size) (texts : List CString) :
    AllInside (appendTexts object size length texts) ↔ length + texts.flatten.length < size := by
  induction texts generalizing length with
  | nil => exact iff_of_true allInside_nil fits
  | cons text texts ih =>
      rw [appendTexts, allInside_cons, inside_iff, List.flatten_cons, List.length_append]
      constructor
      · intro inside
        obtain ⟨first, others⟩ := inside
        have firstFits : length + text.length < size := by omega
        rw [ih firstFits] at others
        omega
      · intro whole
        have firstFits : length + text.length < size := by omega
        rw [ih firstFits]
        omega

theorem object_appendTexts {store : Store Object} {length : Nat} {texts : List CString}
    (member : store ∈ appendTexts object size length texts) : store.object = object := by
  induction texts generalizing length with
  | nil => cases member
  | cons text texts ih =>
      rcases List.mem_cons.1 member with first | later
      · rw [first]
      · exact ih later

end Inside

end NetworkServices
