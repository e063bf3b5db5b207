import NetworkServices.Palindrome.IsPalindromeProperties
import Mathlib.Logic.Relation

/-! What `is_palindrome` reads and what it ignores: the offsets its comparison reaches, and the
edits of a text that leave its significant digits in place. -/

set_option autoImplicit false

namespace NetworkServices.Palindrome

theorem significant_ne_nil_iff (text : List UInt8) :
    significant text ≠ [] ↔ ∃ char ∈ text, isdigit char = true ∧ char ≠ 48 := by
  rw [significant, Ne, List.dropWhile_eq_nil_iff]
  simp only [digits, List.mem_filter, decide_eq_true_eq, not_forall, exists_prop, and_assoc]

/-!
## The offsets of the comparison
-/

theorem compareLoop_offsets {tmp : Block} {head tail : Int} (ordered : head ≤ tail) :
    ∀ offset ∈ (compareLoop tmp head tail).2, head ≤ offset ∧ offset ≤ tail := by
  fun_induction compareLoop tmp head tail with
  | case1 head tail differ =>
      intro offset read
      simp only [List.mem_cons, List.not_mem_nil, or_false] at read
      omega
  | case2 head tail equal inner _ ih =>
      intro offset read
      simp only [List.mem_cons] at read
      rcases read with atHead | atTail | later
      · omega
      · omega
      · have within := ih inner offset later
        omega
  | case3 head tail equal met =>
      intro offset read
      simp only [List.mem_cons, List.not_mem_nil, or_false] at read
      omega

/-- The comparison loop begins with `*head`, whatever its bounds. -/
theorem head_mem_compareLoop (tmp : Block) (head tail : Int) :
    head ∈ (compareLoop tmp head tail).2 := by
  rw [compareLoop]
  split
  · simp
  · split
    · simp
    · simp

/-- The comparison loop of a run reads only among the `j` bytes copied before it. -/
def ReadsOnlyCopied (malloc : Block) (buff : List UInt8) : Prop :=
  ∀ tmp j, copyLoop malloc 0 buff = some (tmp, j) →
    ∀ offset ∈ (compareLoop tmp (skipZeros tmp 0 j) (j - 1)).2, 0 ≤ offset ∧ offset < j

theorem readsOnlyCopied_of_letter {text : List UInt8} (letter : HasLetter text) (malloc : Block) :
    ReadsOnlyCopied malloc text := by
  intro tmp j copied
  rw [copyLoop_of_letter letter] at copied
  cases copied

theorem readsOnlyCopied_iff {text : List UInt8} (plain : ¬ HasLetter text) (malloc : Block) :
    ReadsOnlyCopied malloc text ↔ significant text ≠ [] := by
  have skipped := skipZeros_store malloc 0 (digits text)
  have lengths := length_zeros_add text
  rw [Nat.zero_add] at skipped
  constructor
  · intro inside noNumber
    -- `head` stands behind the last digit, where nothing was copied.
    have read := head_mem_compareLoop (store malloc 0 (digits text))
      (skipZeros (store malloc 0 (digits text)) 0 (digits text).length)
      ((digits text).length - 1)
    have copied := copyLoop_of_no_letter plain malloc 0
    rw [Nat.zero_add] at copied
    have below := (inside _ _ copied _ read).2
    rw [skipped] at below
    rw [noNumber, List.length_nil] at lengths
    omega
  · intro number tmp j copied offset read
    have positive := List.length_pos_iff.mpr number
    rw [copyLoop_of_no_letter plain] at copied
    cases copied
    rw [Nat.zero_add, skipped] at read
    have within := compareLoop_offsets (by omega) offset read
    omega

theorem isPalindrome_reads_copied_iff (text : List UInt8) :
    (∀ malloc, ReadsOnlyCopied malloc text) ∧
        (∀ malloc malloc', isPalindrome (some malloc) text = isPalindrome (some malloc') text) ↔
      HasLetter text ∨ ∃ char ∈ text, isdigit char = true ∧ char ≠ 48 := by
  rw [← significant_ne_nil_iff]
  by_cases letter : HasLetter text
  · refine iff_of_true ⟨readsOnlyCopied_of_letter letter, ?_⟩ (.inl letter)
    intro malloc malloc'
    rw [isPalindrome_of_letter letter, isPalindrome_of_letter letter]
  · constructor
    · intro initialised
      exact .inr ((readsOnlyCopied_iff letter (fun _ => 0)).mp (initialised.1 _))
    · intro condition
      have number := condition.resolve_left letter
      refine ⟨fun malloc => (readsOnlyCopied_iff letter malloc).mpr number, ?_⟩
      intro malloc malloc'
      rw [isPalindrome_of_significant letter number, isPalindrome_of_significant letter number]

/-- On `"0"` the comparison starts with the byte behind the digit. -/
theorem isPalindrome_reads_behind_zero :
    ¬ ∀ text : List UInt8, (∀ malloc, ReadsOnlyCopied malloc text) ∧
      ∀ malloc malloc', isPalindrome (some malloc) text = isPalindrome (some malloc') text := by
  intro initialised
  have plain : ¬ HasLetter [48] := by decide
  obtain ⟨⟨zeros, palindrome⟩, ⟨one, other⟩⟩ := isPalindrome_of_insignificant plain rfl
  have same := (initialised [48]).2 zeros one
  rw [palindrome, other] at same
  cases same

/-!
## The edits that do not matter
-/

/-- One character inserted: white space anywhere, or a zero in front of the first significant
digit. -/
inductive Padded : List UInt8 → List UInt8 → Prop where
  | space {front back : List UInt8} {char : UInt8} (white : isspace char = true) :
      Padded (front ++ back) (front ++ char :: back)
  | zero {front back : List UInt8}
      (leading : ∀ char ∈ front, isdigit char = true → char = 48) :
      Padded (front ++ back) (front ++ 48 :: back)

theorem Padded.hasLetter_iff {text padded : List UInt8} (inserted : Padded text padded) :
    HasLetter padded ↔ HasLetter text := by
  cases inserted with
  | @space front back char white =>
      have notLetter := not_isalpha_of_isspace white
      simp only [HasLetter, List.mem_append, List.mem_cons]
      grind
  | @zero front back leading =>
      have notLetter : ¬ isalpha 48 = true := by decide
      simp only [HasLetter, List.mem_append, List.mem_cons]
      grind

theorem Padded.significant_eq {text padded : List UInt8} (inserted : Padded text padded) :
    significant padded = significant text := by
  cases inserted with
  | @space front back char white =>
      have other := not_isdigit_of_isspace white
      rw [significant, significant, digits, List.filter_append, List.filter_cons_of_neg other,
        ← List.filter_append, digits]
  | @zero front back leading =>
      have zero : isdigit 48 = true := by decide
      have zeros : ∀ char ∈ front.filter isdigit, (decide (char = 48)) = true := by
        intro char member
        obtain ⟨inFront, digit⟩ := List.mem_filter.mp member
        exact decide_eq_true (leading char inFront digit)
      rw [significant, significant, digits, digits, List.filter_append, List.filter_append,
        List.filter_cons_of_pos zero, List.dropWhile_append_of_pos zeros,
        List.dropWhile_append_of_pos zeros, List.dropWhile_cons_of_pos (by decide)]

theorem significant_and_hasLetter_of_edits {text text' : List UInt8}
    (edits : Relation.EqvGen Padded text text') :
    significant text' = significant text ∧ (HasLetter text' ↔ HasLetter text) := by
  induction edits with
  | rel text text' inserted => exact ⟨inserted.significant_eq, inserted.hasLetter_iff⟩
  | refl text => exact ⟨rfl, Iff.rfl⟩
  | symm text text' _ ih => exact ⟨ih.1.symm, ih.2.symm⟩
  | trans text text' text'' _ _ first second =>
      exact ⟨second.1.trans first.1, second.2.trans first.2⟩

/-- The verdict on a number, and its independence of every sequence of insertions and
deletions of padding. -/
theorem isPalindrome_decides {text : List UInt8} (plain : ¬ HasLetter text)
    (number : ∃ char ∈ text, isdigit char = true ∧ char ≠ 48) :
    (∀ malloc, isPalindrome (some malloc) text =
      if (significant text).reverse = significant text then some 1 else some 0) ∧
    ∀ text', Relation.EqvGen Padded text text' → ∀ malloc malloc',
      isPalindrome (some malloc') text' = isPalindrome (some malloc) text := by
  rw [← significant_ne_nil_iff] at number
  refine ⟨isPalindrome_of_significant plain number, ?_⟩
  intro text' edits malloc malloc'
  obtain ⟨sameDigits, sameLetters⟩ := significant_and_hasLetter_of_edits edits
  have plain' : ¬ HasLetter text' := by
    rwa [sameLetters]
  have number' : significant text' ≠ [] := by
    rwa [sameDigits]
  rw [isPalindrome_of_significant plain' number', isPalindrome_of_significant plain number,
    sameDigits]

theorem isPalindrome_decides_padded :
    (∀ malloc, isPalindrome (some malloc) [49, 50, 49] = some 1) ∧
      ∀ malloc, isPalindrome (some malloc) [48, 49, 50, 49] = some 1 := by
  have plain : ¬ HasLetter [49, 50, 49] := by decide
  have number : ∃ char ∈ [49, 50, 49], isdigit char = true ∧ char ≠ 48 := by decide
  obtain ⟨verdict, padded⟩ := isPalindrome_decides plain number
  have inserted : Padded ([] ++ [49, 50, 49]) ([] ++ 48 :: [49, 50, 49]) :=
    .zero (by simp)
  refine ⟨verdict, fun malloc => ?_⟩
  exact (padded _ (.rel _ _ inserted) malloc malloc).trans (verdict malloc)

end NetworkServices.Palindrome
