import Mathlib.Data.Nat.ModEq
import Mathlib.Algebra.Group.Nat.Even
import Mathlib.Tactic.Ring
import Mathlib.Tactic.Linarith

/-! One's-complement accumulation with deferred carries, at any word width, and
the little-endian word sums of byte strings. Zero has two representations in
this arithmetic, so every statement separates the empty sum from the others. -/

set_option autoImplicit false

namespace NetworkServices.OnesComplement

private theorem two_le_two_pow (width : Nat) [NeZero width] : 2 ≤ 2 ^ width := by
  calc 2 = 2 ^ 1 := rfl
    _ ≤ 2 ^ width := Nat.pow_le_pow_right (by omega) (Nat.pos_of_ne_zero (NeZero.ne width))

/-- End-around carry: what stands above `width` bits is added back below them
until nothing stands there. -/
def foldCarries (width : Nat) [NeZero width] (sum : Nat) : Nat :=
  if sum >>> width = 0 then sum
  else foldCarries width (sum % 2 ^ width + sum >>> width)
termination_by sum
decreasing_by
  rename_i carries
  rw [Nat.shiftRight_eq_div_pow] at carries ⊢
  have wide := two_le_two_pow width
  have split := Nat.mod_add_div sum (2 ^ width)
  have grows : 2 * (sum / 2 ^ width) ≤ 2 ^ width * (sum / 2 ^ width) :=
    Nat.mul_le_mul_right _ wide
  omega

theorem carry_modEq (width sum : Nat) :
    sum % 2 ^ width + sum / 2 ^ width ≡ sum [MOD 2 ^ width - 1] := by
  have base : 2 ^ width - 1 + 1 = 2 ^ width := Nat.sub_add_cancel Nat.one_le_two_pow
  have split := Nat.mod_add_div sum (2 ^ width)
  have regroup : sum = (2 ^ width - 1) * (sum / 2 ^ width) +
      (sum % 2 ^ width + sum / 2 ^ width) := by
    calc sum = sum % 2 ^ width + (2 ^ width - 1 + 1) * (sum / 2 ^ width) := by rw [base, split]
      _ = _ := by ring
  exact (Nat.modEq_iff_dvd' (by omega)).mpr ⟨sum / 2 ^ width, by omega⟩

section FoldCarries

variable (width : Nat) [NeZero width]

theorem foldCarries_of_no_carry {sum : Nat} (settled : sum >>> width = 0) :
    foldCarries width sum = sum := by
  rw [foldCarries, if_pos settled]

theorem foldCarries_of_carry {sum : Nat} (carries : sum >>> width ≠ 0) :
    foldCarries width sum = foldCarries width (sum % 2 ^ width + sum >>> width) := by
  rw [foldCarries, if_neg carries]

theorem foldCarries_of_lt {sum : Nat} (settled : sum < 2 ^ width) : foldCarries width sum = sum := by
  apply foldCarries_of_no_carry
  rw [Nat.shiftRight_eq_div_pow]
  exact Nat.div_eq_of_lt settled

/-- One round of the fold, in the arithmetic of its quotient and remainder. -/
theorem foldCarries_round {sum : Nat} (carries : 2 ^ width ≤ sum) :
    foldCarries width (sum % 2 ^ width + sum / 2 ^ width) = foldCarries width sum := by
  have carry : sum >>> width ≠ 0 := by
    rw [Nat.shiftRight_eq_div_pow]
    exact Nat.ne_of_gt (Nat.div_pos carries (Nat.two_pow_pos width))
  rw [foldCarries_of_carry width carry, Nat.shiftRight_eq_div_pow]

theorem foldCarries_lt (sum : Nat) : foldCarries width sum < 2 ^ width := by
  induction sum using foldCarries.induct width with
  | case1 sum settled =>
      rw [foldCarries_of_no_carry width settled]
      rw [Nat.shiftRight_eq_div_pow] at settled
      exact (Nat.div_eq_zero_iff_lt (Nat.two_pow_pos width)).mp settled
  | case2 sum carries ih =>
      rw [foldCarries_of_carry width carries]
      exact ih

theorem foldCarries_modEq (sum : Nat) :
    foldCarries width sum ≡ sum [MOD 2 ^ width - 1] := by
  induction sum using foldCarries.induct width with
  | case1 sum settled => rw [foldCarries_of_no_carry width settled]
  | case2 sum carries ih =>
      rw [foldCarries_of_carry width carries]
      refine ih.trans ?_
      rw [Nat.shiftRight_eq_div_pow]
      exact carry_modEq width sum

/-- Only the empty sum folds to plus zero: a carry is never lost. -/
theorem foldCarries_eq_zero_iff (sum : Nat) : foldCarries width sum = 0 ↔ sum = 0 := by
  induction sum using foldCarries.induct width with
  | case1 sum settled => rw [foldCarries_of_no_carry width settled]
  | case2 sum carries ih =>
      rw [foldCarries_of_carry width carries, ih]
      constructor
      · intro folded
        obtain ⟨_, noCarry⟩ := Nat.add_eq_zero_iff.mp folded
        exact absurd noCarry carries
      · intro empty
        simp [empty] at carries

/-- A nonempty sum folds to minus zero exactly when it is a multiple of
`2 ^ width - 1`. -/
theorem foldCarries_eq_ones_iff (sum : Nat) :
    foldCarries width sum = 2 ^ width - 1 ↔ sum ≠ 0 ∧ 2 ^ width - 1 ∣ sum := by
  have below := foldCarries_lt width sum
  have residue := foldCarries_modEq width sum
  have wide := two_le_two_pow width
  constructor
  · intro ones
    refine ⟨?_, ?_⟩
    · rw [Ne, ← foldCarries_eq_zero_iff width sum]
      omega
    · rw [ones] at residue
      exact (Nat.modEq_zero_iff_dvd.mp (residue.symm.trans (Nat.modEq_zero_iff_dvd.mpr dvd_rfl)))
  · intro multiples
    obtain ⟨nonempty, multiple⟩ := multiples
    have folded : 2 ^ width - 1 ∣ foldCarries width sum :=
      Nat.modEq_zero_iff_dvd.mp (residue.trans (Nat.modEq_zero_iff_dvd.mpr multiple))
    have positive : 0 < foldCarries width sum :=
      Nat.pos_of_ne_zero (mt (foldCarries_eq_zero_iff width sum).mp nonempty)
    have least := Nat.le_of_dvd positive folded
    omega

/-- The folded value is the residue of the sum, with plus zero kept for the empty sum. -/
theorem eq_foldCarries_iff (sum folded : Nat) :
    folded ≤ 2 ^ width - 1 ∧ folded ≡ sum [MOD 2 ^ width - 1] ∧ (folded = 0 ↔ sum = 0) ↔
      folded = foldCarries width sum := by
  have below := foldCarries_lt width sum
  have residue := foldCarries_modEq width sum
  have zero := foldCarries_eq_zero_iff width sum
  constructor
  · intro stated
    obtain ⟨bound, congruent, empty⟩ := stated
    have sameZero : folded = 0 ↔ foldCarries width sum = 0 := empty.trans zero.symm
    have same : folded % (2 ^ width - 1) = foldCarries width sum % (2 ^ width - 1) :=
      congruent.trans residue.symm
    rcases Nat.lt_or_ge folded (2 ^ width - 1) with less | greatest
    · rcases Nat.lt_or_ge (foldCarries width sum) (2 ^ width - 1) with foldedLess | foldedGreatest
      · rwa [Nat.mod_eq_of_lt less, Nat.mod_eq_of_lt foldedLess] at same
      · have ones : foldCarries width sum = 2 ^ width - 1 := by omega
        rw [ones, Nat.mod_self, Nat.mod_eq_of_lt less] at same
        omega
    · have ones : folded = 2 ^ width - 1 := by omega
      rcases Nat.lt_or_ge (foldCarries width sum) (2 ^ width - 1) with foldedLess | foldedGreatest
      · rw [ones, Nat.mod_self, Nat.mod_eq_of_lt foldedLess] at same
        omega
      · omega
  · intro same
    subst same
    exact ⟨by omega, residue, zero⟩

end FoldCarries

/-- The sum of the little-endian 16-bit words of a byte string. An odd last byte
counts as a word whose high byte is zero. -/
def wordSum : List UInt8 → Nat
  | low :: high :: rest => low.toNat + 256 * high.toNat + wordSum rest
  | [last] => last.toNat
  | [] => 0

@[simp] theorem wordSum_nil : wordSum [] = 0 := rfl

@[simp] theorem wordSum_singleton (last : UInt8) : wordSum [last] = last.toNat := rfl

@[simp] theorem wordSum_cons_cons (low high : UInt8) (rest : List UInt8) :
    wordSum (low :: high :: rest) = low.toNat + 256 * high.toNat + wordSum rest := rfl

theorem wordSum_append {front : List UInt8} (aligned : Even front.length) (back : List UInt8) :
    wordSum (front ++ back) = wordSum front + wordSum back := by
  induction front using wordSum.induct with
  | case1 low high rest ih =>
      have restAligned : Even rest.length := by
        simpa [Nat.even_add_one] using aligned
      simp only [List.cons_append, wordSum_cons_cons, ih restAligned]
      omega
  | case2 last => simp at aligned
  | case3 => simp

theorem wordSum_eq_zero_iff (bytes : List UInt8) :
    wordSum bytes = 0 ↔ ∀ byte ∈ bytes, byte = 0 := by
  have toNat_eq_zero (byte : UInt8) : byte.toNat = 0 ↔ byte = 0 := by
    rw [← UInt8.toNat_inj, UInt8.toNat_zero]
  induction bytes using wordSum.induct with
  | case1 low high rest ih =>
      have tail : wordSum rest = 0 ↔ ∀ byte ∈ rest, byte = 0 := ih
      rw [List.forall_mem_cons, List.forall_mem_cons, ← tail, ← toNat_eq_zero, ← toNat_eq_zero,
        wordSum_cons_cons]
      omega
  | case2 last => simp [toNat_eq_zero]
  | case3 => simp

instance sixteenBits : NeZero 16 := ⟨by decide⟩

/-- The internet checksum of a byte string: the complement of its folded sum. -/
def checksum (bytes : List UInt8) : UInt16 :=
  ~~~ UInt16.ofNat (foldCarries 16 (wordSum bytes))

theorem checksum_toNat (bytes : List UInt8) :
    (checksum bytes).toNat = 65535 - foldCarries 16 (wordSum bytes) := by
  have below : foldCarries 16 (wordSum bytes) < 65536 := foldCarries_lt 16 _
  rw [checksum, UInt16.toNat_not, UInt16.toNat_ofNat', Nat.mod_eq_of_lt below]
  rfl

/-- A checksum verifies exactly on the nonempty sums that are multiples of 65535:
plus zero is the one multiple it does not accept. -/
theorem checksum_eq_zero_iff (bytes : List UInt8) :
    checksum bytes = 0 ↔ wordSum bytes ≠ 0 ∧ 65535 ∣ wordSum bytes := by
  have below : foldCarries 16 (wordSum bytes) < 65536 := foldCarries_lt 16 _
  have ones : foldCarries 16 (wordSum bytes) = 65535 ↔ _ :=
    foldCarries_eq_ones_iff 16 (wordSum bytes)
  rw [← UInt16.toNat_inj, checksum_toNat, UInt16.toNat_zero]
  constructor
  · intro verified
    exact ones.mp (by omega)
  · intro multiple
    rw [ones.mpr multiple]

/-- A checksum is congruent to the negative of the sum it was computed from. -/
theorem checksum_add_wordSum (bytes : List UInt8) :
    65535 ∣ wordSum bytes + (checksum bytes).toNat := by
  have below : foldCarries 16 (wordSum bytes) < 65536 := foldCarries_lt 16 _
  have residue : foldCarries 16 (wordSum bytes) ≡ wordSum bytes [MOD 65535] :=
    foldCarries_modEq 16 _
  rw [checksum_toNat, ← Nat.modEq_zero_iff_dvd]
  calc wordSum bytes + (65535 - foldCarries 16 (wordSum bytes))
      ≡ foldCarries 16 (wordSum bytes) + (65535 - foldCarries 16 (wordSum bytes)) [MOD 65535] :=
        residue.symm.add_right _
    _ = 65535 := by omega
    _ ≡ 0 [MOD 65535] := Nat.modEq_zero_iff_dvd.mpr dvd_rfl

/-- Adding the checksum of some bytes to their sum makes the checksum plus zero. -/
theorem checksum_eq_zero_of_added {bytes sent : List UInt8}
    (added : wordSum sent = wordSum bytes + (checksum bytes).toNat) : checksum sent = 0 := by
  rw [checksum_eq_zero_iff, added]
  refine ⟨?_, checksum_add_wordSum bytes⟩
  intro empty
  obtain ⟨noSum, noChecksum⟩ := Nat.add_eq_zero_iff.mp empty
  rw [checksum_toNat, (foldCarries_eq_zero_iff 16 _).mpr noSum] at noChecksum
  cases noChecksum

theorem word_of_checksums_zero {before after : List UInt8} {others word word' : Nat}
    (bound : word ≤ 65535) (bound' : word' ≤ 65535)
    (sumBefore : wordSum before = others + word) (sumAfter : wordSum after = others + word')
    (verified : checksum before = 0) (verified' : checksum after = 0) :
    word = word' ∨ (word = 0 ∧ word' = 65535) ∨ (word = 65535 ∧ word' = 0) := by
  obtain ⟨_, multiple⟩ := (checksum_eq_zero_iff before).mp verified
  obtain ⟨_, multiple'⟩ := (checksum_eq_zero_iff after).mp verified'
  omega

theorem wordSum_le (bytes : List UInt8) : wordSum bytes ≤ 65535 * ((bytes.length + 1) / 2) := by
  induction bytes using wordSum.induct with
  | case1 low high rest ih =>
      have lowByte := low.toNat_lt
      have highByte := high.toNat_lt
      rw [wordSum_cons_cons, List.length_cons, List.length_cons]
      omega
  | case2 last =>
      have lastByte := last.toNat_lt
      rw [wordSum_singleton, List.length_singleton]
      omega
  | case3 => simp

end NetworkServices.OnesComplement
