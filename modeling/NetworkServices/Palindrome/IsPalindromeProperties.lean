import NetworkServices.Palindrome.IsPalindrome
import Mathlib.Data.List.TakeWhile

/-! What `is_palindrome` decides: letters are refused, a number with a digit other
than zero is compared with its own reverse, and without such a digit the verdict
rests on memory that was never written. -/

set_option autoImplicit false

namespace NetworkServices.Palindrome

def HasLetter (text : List UInt8) : Prop :=
  ∃ char ∈ text, isalpha char = true

instance (text : List UInt8) : Decidable (HasLetter text) :=
  inferInstanceAs (Decidable (∃ char ∈ text, isalpha char = true))

def digits (text : List UInt8) : List UInt8 :=
  text.filter isdigit

theorem digits_cons_of_digit {char : UInt8} (digit : isdigit char = true) (rest : List UInt8) :
    digits (char :: rest) = char :: digits rest :=
  List.filter_cons_of_pos digit

theorem digits_cons_of_not_digit {char : UInt8} (other : ¬ isdigit char = true)
    (rest : List UInt8) : digits (char :: rest) = digits rest :=
  List.filter_cons_of_neg other

def significant (text : List UInt8) : List UInt8 :=
  (digits text).dropWhile (· = 48)

theorem not_isdigit_of_isalpha {char : UInt8} (letter : isalpha char = true) :
    isdigit char = false := by
  simp only [isalpha, isdigit, Bool.or_eq_true, Bool.and_eq_true, decide_eq_true_eq,
    Bool.and_eq_false_iff, decide_eq_false_iff_not, UInt8.le_iff_toNat_le] at *
  simp at *
  omega

/-!
## Copying
-/

def store (tmp : Block) (start : Nat) : List UInt8 → Block
  | [] => tmp
  | byte :: rest => store (Function.update tmp start byte) (start + 1) rest

theorem store_before {tmp : Block} {start : Nat} {bytes : List UInt8} {i : Int}
    (before : i < start) : store tmp start bytes i = tmp i := by
  induction bytes generalizing tmp start with
  | nil => rfl
  | cons byte rest ih =>
      rw [store, ih (by push_cast; omega), Function.update_of_ne (by omega)]

theorem store_behind {tmp : Block} {start : Nat} {bytes : List UInt8} {i : Int}
    (behind : (start + bytes.length : Nat) ≤ i) : store tmp start bytes i = tmp i := by
  induction bytes generalizing tmp start with
  | nil => rfl
  | cons byte rest ih =>
      rw [List.length_cons] at behind
      rw [store, ih (by omega), Function.update_of_ne (by omega)]

theorem store_inside (tmp : Block) (start : Nat) {bytes : List UInt8} {i : Nat}
    (inside : i < bytes.length) : store tmp start bytes ((start + i : Nat) : Int) = bytes[i] := by
  induction bytes generalizing tmp start i with
  | nil => simp at inside
  | cons byte rest ih =>
      cases i with
      | zero => rw [store, store_before (by push_cast; omega)]; simp
      | succ i =>
          have place : start + (i + 1) = start + 1 + i := by omega
          rw [store, place]
          exact ih _ _ (Nat.lt_of_succ_lt_succ inside)

theorem copyLoop_of_letter {text : List UInt8} (letter : HasLetter text) (tmp : Block) (j : Nat) :
    copyLoop tmp j text = none := by
  fun_induction copyLoop tmp j text with
  | case1 => simp [HasLetter] at letter
  | case2 tmp j char rest digit ih =>
      refine ih ?_
      obtain ⟨other, member, isLetter⟩ := letter
      rcases List.mem_cons.mp member with rfl | later
      · rw [not_isdigit_of_isalpha isLetter] at digit
        cases digit
      · exact ⟨other, later, isLetter⟩
  | case3 => rfl
  | case4 tmp j char rest _ notLetter ih =>
      refine ih ?_
      obtain ⟨other, member, isLetter⟩ := letter
      rcases List.mem_cons.mp member with rfl | later
      · exact absurd isLetter notLetter
      · exact ⟨other, later, isLetter⟩

theorem copyLoop_of_no_letter {text : List UInt8} (plain : ¬ HasLetter text) (tmp : Block)
    (j : Nat) :
    copyLoop tmp j text = some (store tmp j (digits text), j + (digits text).length) := by
  have weaken {char : UInt8} {rest : List UInt8} (plain : ¬ HasLetter (char :: rest)) :
      ¬ HasLetter rest :=
    fun ⟨other, member, letter⟩ => plain ⟨other, List.mem_cons_of_mem _ member, letter⟩
  fun_induction copyLoop tmp j text with
  | case1 => rfl
  | case2 tmp j char rest digit ih =>
      have length : j + 1 + (digits rest).length = j + ((digits rest).length + 1) := by omega
      rw [ih (weaken plain), digits_cons_of_digit digit, store, List.length_cons, length]
  | case3 tmp j char rest _ letter => exact absurd ⟨char, by simp, letter⟩ plain
  | case4 tmp j char rest notDigit _ ih =>
      rw [ih (weaken plain), digits_cons_of_not_digit notDigit]

/-!
## Leading zeros
-/

theorem skipZeros_store (tmp : Block) (start : Nat) (bytes : List UInt8) :
    skipZeros (store tmp start bytes) start (start + bytes.length) =
      start + (bytes.takeWhile (· = 48)).length := by
  induction bytes generalizing tmp start with
  | nil => rw [skipZeros, if_neg (by simp)]; rfl
  | cons byte rest ih =>
      have first : store tmp start (byte :: rest) start = byte := by
        rw [store, store_before (by push_cast; omega), Function.update_self]
      rw [skipZeros, if_pos (by simp), first]
      by_cases zero : byte = 48
      · have next : start + (rest.length + 1) = start + 1 + rest.length := by omega
        rw [if_neg (not_not.mpr zero), store, List.length_cons, next, ih]
        simp [zero]
        omega
      · simp [zero]

/-!
## Comparing
-/

theorem compareLoop_of_ne {tmp : Block} {head tail : Int} (differ : tmp head ≠ tmp tail) :
    compareLoop tmp head tail = (false, [head, tail]) := by
  rw [compareLoop, if_pos differ]

theorem compareLoop_of_met {tmp : Block} {head tail : Int} (equal : tmp head = tmp tail)
    (met : ¬ head + 1 ≤ tail - 1) : compareLoop tmp head tail = (true, [head, tail]) := by
  rw [compareLoop, if_neg (not_not.mpr equal), if_neg met]

theorem compareLoop_iff {tmp : Block} {head tail : Int} (ordered : head ≤ tail) :
    (compareLoop tmp head tail).1 = true ↔
      ∀ i, head ≤ i → i ≤ tail → tmp i = tmp (head + tail - i) := by
  fun_induction compareLoop tmp head tail with
  | case1 head tail differ =>
      refine iff_of_false Bool.false_ne_true fun mirrored => differ ?_
      have opposite : head + tail - head = tail := by omega
      rw [mirrored head (Int.le_refl _) ordered, opposite]
  | case2 head tail equal inner _ ih =>
      have equal := not_not.mp equal
      have sameCentre (i : Int) : head + 1 + (tail - 1) - i = head + tail - i := by omega
      rw [ih inner]
      simp only [sameCentre]
      constructor
      · intro mirrored i lower upper
        by_cases atHead : i = head
        · rw [atHead, equal]; congr 1; omega
        by_cases atTail : i = tail
        · rw [atTail, ← equal]; congr 1; omega
        exact mirrored i (by omega) (by omega)
      · intro mirrored i lower upper
        exact mirrored i (by omega) (by omega)
  | case3 head tail equal met =>
      have equal := not_not.mp equal
      refine iff_of_true rfl fun i lower upper => ?_
      by_cases atHead : i = head
      · rw [atHead, equal]; congr 1; omega
      · have atTail : i = tail := by omega
        rw [atTail, ← equal]; congr 1; omega

theorem reverse_eq_iff_mirrored {tmp : Block} {start : Int} {bytes : List UInt8}
    (stored : ∀ (i : Nat) (inside : i < bytes.length), tmp (start + i) = bytes[i]) :
    bytes.reverse = bytes ↔
      ∀ i, start ≤ i → i ≤ start + bytes.length - 1 →
        tmp i = tmp (start + (start + bytes.length - 1) - i) := by
  constructor
  · intro same i lower upper
    obtain ⟨n, rfl⟩ : ∃ n : Nat, i = start + n := ⟨(i - start).toNat, by omega⟩
    have inside : n < bytes.length := by omega
    have opposite : bytes.length - 1 - n < bytes.length := by omega
    have swapped : bytes[n] = bytes[bytes.length - 1 - n] := by
      rw [← List.getElem_reverse (by simpa using inside)]
      exact (List.getElem_of_eq same _).symm
    rw [stored n inside, swapped, ← stored _ opposite]
    congr 1
    omega
  · intro mirrored
    refine List.ext_getElem List.length_reverse fun n _ inside => ?_
    have opposite : bytes.length - 1 - n < bytes.length := by omega
    rw [List.getElem_reverse, ← stored _ opposite, ← stored n inside,
      mirrored (start + n) (by omega) (by omega)]
    congr 1
    omega

/-!
## The verdict
-/

theorem isPalindrome_cases (tmp : Block) (text : List UInt8) :
    isPalindrome (some tmp) text = some (-1) ∨ isPalindrome (some tmp) text = some 1 ∨
      isPalindrome (some tmp) text = some 0 := by
  rw [isPalindrome]
  split
  · exact .inl rfl
  · split
    · exact .inr (.inl rfl)
    · exact .inr (.inr rfl)

theorem isPalindrome_of_no_letter {text : List UInt8} (plain : ¬ HasLetter text) (tmp : Block) :
    isPalindrome (some tmp) text =
      if (compareLoop (store tmp 0 (digits text)) ((digits text).takeWhile (· = 48)).length
          ((digits text).length - 1)).1 then some 1 else some 0 := by
  have skipped := skipZeros_store tmp 0 (digits text)
  rw [Nat.zero_add, Nat.zero_add] at skipped
  simp only [isPalindrome, copyLoop_of_no_letter plain, Nat.zero_add, skipped]

theorem isPalindrome_of_letter {text : List UInt8} (letter : HasLetter text) (tmp : Block) :
    isPalindrome (some tmp) text = some (-1) := by
  simp only [isPalindrome, copyLoop_of_letter letter]

theorem zeros_append_significant (text : List UInt8) :
    (digits text).takeWhile (· = 48) ++ significant text = digits text :=
  List.takeWhile_append_dropWhile

theorem length_zeros_add (text : List UInt8) :
    ((digits text).takeWhile (· = 48)).length + (significant text).length =
      (digits text).length := by
  rw [← List.length_append, zeros_append_significant]

/-- The significant digits are read backwards and forwards; the block does not matter. -/
theorem isPalindrome_of_significant {text : List UInt8} (plain : ¬ HasLetter text)
    (number : significant text ≠ []) (tmp : Block) :
    isPalindrome (some tmp) text =
      if (significant text).reverse = significant text then some 1 else some 0 := by
  have parts := zeros_append_significant text
  have lengths := length_zeros_add text
  have positive := List.length_pos_iff.mpr number
  have stored (i : Nat) (inside : i < (significant text).length) :
      store tmp 0 (digits text) (((digits text).takeWhile (· = 48)).length + i) =
        (significant text)[i] := by
    have within : ((digits text).takeWhile (· = 48)).length + i < (digits text).length := by
      omega
    have place := store_inside tmp 0 within
    rw [Nat.zero_add, Int.natCast_add] at place
    rw [place, List.getElem_of_eq parts.symm, List.getElem_append_right (Nat.le_add_right _ _)]
    simp only [Nat.add_sub_cancel_left]
  have mirrored := reverse_eq_iff_mirrored stored
  have last : (((digits text).takeWhile (· = 48)).length : Int) + (significant text).length - 1 =
      (digits text).length - 1 := by omega
  rw [last, ← compareLoop_iff (by omega)] at mirrored
  rw [isPalindrome_of_no_letter plain]
  simp only [mirrored]

theorem store_zeros {tmp : Block} {start : Nat} {bytes : List UInt8} {i : Int}
    (zeros : ∀ byte ∈ bytes, byte = 48) (zero : tmp i = 48) : store tmp start bytes i = 48 := by
  induction bytes generalizing tmp start with
  | nil => exact zero
  | cons byte rest ih =>
      refine ih (fun other member => zeros other (List.mem_cons_of_mem _ member)) ?_
      by_cases here : i = start
      · rw [here, Function.update_self]
        exact zeros byte (List.mem_cons_self ..)
      · rw [Function.update_of_ne here, zero]

/-- Without a digit other than zero, the byte behind the copied digits is compared
with the one in front of it, and the block can be such that either answer is given. -/
theorem isPalindrome_of_insignificant {text : List UInt8} (plain : ¬ HasLetter text)
    (noNumber : significant text = []) :
    (∃ tmp, isPalindrome (some tmp) text = some 1) ∧
      ∃ tmp, isPalindrome (some tmp) text = some 0 := by
  have zeros : ∀ byte ∈ digits text, byte = 48 := by
    intro byte member
    simpa using List.dropWhile_eq_nil_iff.mp noNumber byte member
  have stop : (digits text).takeWhile (· = 48) = digits text := by
    rw [List.takeWhile_eq_self_iff]
    intro byte member
    simpa using zeros byte member
  have behind (tmp : Block) :
      store tmp 0 (digits text) (digits text).length = tmp (digits text).length :=
    store_behind (by omega)
  refine ⟨⟨fun _ => 48, ?_⟩, ⟨fun i => if i = (digits text).length then 49 else 48, ?_⟩⟩
  · rw [isPalindrome_of_no_letter plain, stop, compareLoop_of_met _ (by omega)]
    · rfl
    · rw [behind, store_zeros zeros rfl]
  · rw [isPalindrome_of_no_letter plain, stop, compareLoop_of_ne]
    · rfl
    · rw [behind, store_zeros zeros (if_neg (by omega)), if_pos rfl]
      decide

theorem isPalindrome_isSome {malloc : Option Block} (allocated : malloc.isSome) (text : CString) :
    ∃ verdict, isPalindrome malloc text = some verdict := by
  obtain ⟨tmp, rfl⟩ := Option.isSome_iff_exists.mp allocated
  rcases isPalindrome_cases tmp text with letter | palindrome | other
  · exact ⟨_, letter⟩
  · exact ⟨_, palindrome⟩
  · exact ⟨_, other⟩

/-!
## What is refused
-/

/-- A character that the comment of the function does not allow. -/
def HasForeign (text : List UInt8) : Prop :=
  ∃ char ∈ text, ¬ (isdigit char = true ∨ isspace char = true)

instance (text : List UInt8) : Decidable (HasForeign text) :=
  inferInstanceAs (Decidable (∃ char ∈ text, ¬ (isdigit char = true ∨ isspace char = true)))

theorem hasForeign_of_letter {text : List UInt8} (letter : HasLetter text) : HasForeign text := by
  obtain ⟨char, member, isLetter⟩ := letter
  refine ⟨char, member, fun allowed => ?_⟩
  rcases allowed with digit | white
  · rw [not_isdigit_of_isalpha isLetter] at digit
    cases digit
  · exact not_isalpha_of_isspace white isLetter

theorem isPalindrome_refuses_iff (tmp : Block) (text : List UInt8) :
    isPalindrome (some tmp) text = some (-1) ↔ HasLetter text := by
  constructor
  · intro refused
    cases Decidable.em (HasLetter text) with
    | inl letter => exact letter
    | inr plain =>
        rw [isPalindrome_of_no_letter plain] at refused
        split at refused <;> cases refused
  · intro letter
    exact isPalindrome_of_letter letter tmp

/-- The result is -1 exactly on the texts with a character that is neither a digit nor
white space. -/
def RejectsForeign (tmp : Block) (text : List UInt8) : Prop :=
  isPalindrome (some tmp) text = some (-1) ↔ HasForeign text

/-- Only letters are looked for. -/
theorem rejectsForeign_iff (tmp : Block) (text : List UInt8) :
    RejectsForeign tmp text ↔
      HasLetter text ∨ ∀ char ∈ text, isdigit char = true ∨ isspace char = true := by
  unfold RejectsForeign
  rw [isPalindrome_refuses_iff]
  constructor
  · intro same
    cases Decidable.em (HasForeign text) with
    | inl foreign => exact .inl (same.mpr foreign)
    | inr clean =>
        refine .inr fun char member => ?_
        exact Decidable.not_not.mp fun other => clean ⟨char, member, other⟩
  · intro allowed
    refine ⟨hasForeign_of_letter, fun foreign => ?_⟩
    rcases allowed with letter | clean
    · exact letter
    · obtain ⟨char, member, other⟩ := foreign
      exact absurd (clean char member) other

/-- `1-1` passes for a palindrome. -/
theorem dash_is_not_refused :
    isPalindrome (some fun _ => 0) (ascii "1-1") = some 1 ∧
      ¬ RejectsForeign (fun _ => 0) (ascii "1-1") := by
  have plain : ¬ HasLetter (ascii "1-1") := by decide
  have number : significant (ascii "1-1") ≠ [] := by decide
  have foreign : HasForeign (ascii "1-1") := by decide
  refine ⟨?_, fun rejects => ?_⟩
  · rw [isPalindrome_of_significant plain number, if_pos (by decide)]
  · exact plain ((isPalindrome_refuses_iff _ _).mp (rejects.mpr foreign))

end NetworkServices.Palindrome
