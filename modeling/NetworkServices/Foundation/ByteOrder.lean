import NetworkServices.Foundation.OnesComplement

/-! Sixteen-bit words in the two byte orders, and the sums of byte strings read in either.
Exchanging the bytes of a word multiplies it by 256 modulo 65535, which is why a
one's-complement sum hardly depends on the order. -/

set_option autoImplicit false

namespace NetworkServices

open OnesComplement

inductive ByteOrder where
  | littleEndian
  | bigEndian
  deriving DecidableEq, Repr

namespace ByteOrder

/-- The word whose bytes stand at an address and at the one above it. -/
def load : ByteOrder → UInt8 → UInt8 → UInt16
  | .littleEndian, first, second => UInt16.ofNat (first.toNat + 256 * second.toNat)
  | .bigEndian, first, second => UInt16.ofNat (256 * first.toNat + second.toNat)

def store : ByteOrder → UInt16 → UInt8 × UInt8
  | .littleEndian, word => (word.toUInt8, (word >>> 8).toUInt8)
  | .bigEndian, word => ((word >>> 8).toUInt8, word.toUInt8)

theorem load_littleEndian_toNat (first second : UInt8) :
    (load .littleEndian first second).toNat = first.toNat + 256 * second.toNat := by
  have low := first.toNat_lt
  have high := second.toNat_lt
  rw [load, UInt16.toNat_ofNat']
  omega

theorem load_bigEndian (first second : UInt8) :
    load .bigEndian first second = load .littleEndian second first := by
  rw [load, load, Nat.add_comm]

theorem load_bigEndian_toNat (first second : UInt8) :
    (load .bigEndian first second).toNat = 256 * first.toNat + second.toNat := by
  rw [load_bigEndian, load_littleEndian_toNat, Nat.add_comm]

theorem store_toNat (word : UInt16) :
    word.toUInt8.toNat + 256 * (word >>> 8).toUInt8.toNat = word.toNat := by
  have bound := word.toNat_lt
  simp only [UInt16.toNat_toUInt8, UInt16.toNat_shiftRight, Nat.shiftRight_eq_div_pow,
    UInt16.reduceToNat, Nat.reduceMod, Nat.reducePow]
  omega

theorem load_store (order : ByteOrder) (word : UInt16) :
    order.load (order.store word).1 (order.store word).2 = word := by
  rw [← UInt16.toNat_inj]
  cases order with
  | littleEndian => rw [store, load_littleEndian_toNat, store_toNat]
  | bigEndian => rw [store, load_bigEndian, load_littleEndian_toNat, store_toNat]

theorem load_injective (order : ByteOrder) {first second first' second' : UInt8}
    (same : order.load first second = order.load first' second') :
    first = first' ∧ second = second' := by
  have low := first.toNat_lt
  have high := second.toNat_lt
  have low' := first'.toNat_lt
  have high' := second'.toNat_lt
  rw [← UInt16.toNat_inj] at same
  rw [← UInt8.toNat_inj, ← UInt8.toNat_inj]
  cases order with
  | littleEndian =>
      rw [load_littleEndian_toNat, load_littleEndian_toNat] at same
      omega
  | bigEndian =>
      rw [load_bigEndian_toNat, load_bigEndian_toNat] at same
      omega

theorem store_load (order : ByteOrder) (first second : UInt8) :
    order.store (order.load first second) = (first, second) := by
  have bytes := load_injective order (load_store order (order.load first second))
  exact Prod.ext bytes.1 bytes.2

/-- The two bytes of a word in memory. -/
def bytes (order : ByteOrder) (word : UInt16) : List UInt8 :=
  [(order.store word).1, (order.store word).2]

/-- The four bytes of a long word in memory. -/
def longBytes : ByteOrder → UInt32 → List UInt8
  | .littleEndian, word => bytes .littleEndian word.toUInt16 ++
      bytes .littleEndian (word >>> 16).toUInt16
  | .bigEndian, word => bytes .bigEndian (word >>> 16).toUInt16 ++ bytes .bigEndian word.toUInt16

/-- `htons(word)`: the word that stands in memory as `word` does in network order. -/
def htons (order : ByteOrder) (word : UInt16) : UInt16 :=
  order.load (store .bigEndian word).1 (store .bigEndian word).2

@[simp] theorem bytes_length (order : ByteOrder) (word : UInt16) : (order.bytes word).length = 2 :=
  rfl

theorem bytes_zero (order : ByteOrder) : order.bytes 0 = [0, 0] := by
  cases order with
  | littleEndian => rfl
  | bigEndian => rfl

theorem bytes_load (order : ByteOrder) (first second : UInt8) :
    order.bytes (order.load first second) = [first, second] := by
  unfold bytes
  rw [store_load]

theorem bytes_injective (order : ByteOrder) {word word' : UInt16}
    (same : order.bytes word = order.bytes word') : word = word' := by
  unfold bytes at same
  rw [List.cons.injEq, List.cons.injEq] at same
  rw [← load_store order word, ← load_store order word', same.1, same.2.1]

@[simp] theorem longBytes_length (order : ByteOrder) (word : UInt32) :
    (order.longBytes word).length = 4 := by
  cases order with
  | littleEndian => rfl
  | bigEndian => rfl

@[simp] theorem bytes_htons (order : ByteOrder) (word : UInt16) :
    order.bytes (order.htons word) = bytes .bigEndian word := by
  unfold bytes htons
  rw [store_load]

theorem store_eq_iff (little big : UInt16) :
    store .littleEndian little = store .bigEndian big ↔
      big.toNat = 256 * (little.toNat % 256) + little.toNat / 256 := by
  have bound := little.toNat_lt
  constructor
  · intro same
    have loaded : load .bigEndian (store .littleEndian little).1 (store .littleEndian little).2 =
        big := by
      rw [same, load_store]
    rw [← loaded, load_bigEndian_toNat, store]
    simp only [UInt16.toNat_toUInt8, UInt16.toNat_shiftRight, Nat.shiftRight_eq_div_pow,
      UInt16.reduceToNat, Nat.reduceMod, Nat.reducePow]
    omega
  · intro swapped
    have loaded : big = load .bigEndian (store .littleEndian little).1
        (store .littleEndian little).2 := by
      rw [← UInt16.toNat_inj, load_bigEndian_toNat, store, swapped]
      simp only [UInt16.toNat_toUInt8, UInt16.toNat_shiftRight, Nat.shiftRight_eq_div_pow,
        UInt16.reduceToNat, Nat.reduceMod, Nat.reducePow]
      omega
    rw [loaded, store_load]

/-- The bytes of every whole word exchanged; an odd last byte stays. -/
def exchangePairs : List UInt8 → List UInt8
  | first :: second :: rest => second :: first :: exchangePairs rest
  | [last] => [last]
  | [] => []

@[simp] theorem exchangePairs_length (bytes : List UInt8) :
    (exchangePairs bytes).length = bytes.length := by
  fun_induction exchangePairs bytes with
  | case1 first second rest ih => simp [ih]
  | case2 last => rfl
  | case3 => rfl

@[simp] theorem mem_exchangePairs {bytes : List UInt8} {byte : UInt8} :
    byte ∈ exchangePairs bytes ↔ byte ∈ bytes := by
  fun_induction exchangePairs bytes with
  | case1 first second rest ih =>
      simp only [List.mem_cons, ih]
      tauto
  | case2 last => exact Iff.rfl
  | case3 => exact Iff.rfl

theorem exchangePairs_append {front : List UInt8} (aligned : Even front.length)
    (back : List UInt8) : exchangePairs (front ++ back) = exchangePairs front ++ exchangePairs back := by
  fun_induction exchangePairs front with
  | case1 first second rest ih =>
      have restAligned : Even rest.length := by
        simpa [Nat.even_add_one] using aligned
      simp only [List.cons_append, exchangePairs, ih restAligned]
  | case2 last => simp at aligned
  | case3 => rfl

theorem wordSum_exchangePairs_eq_zero_iff (bytes : List UInt8) :
    wordSum (exchangePairs bytes) = 0 ↔ wordSum bytes = 0 := by
  simp only [wordSum_eq_zero_iff, mem_exchangePairs]

theorem wordSum_exchangePairs_modEq {bytes : List UInt8} (aligned : Even bytes.length) :
    wordSum (exchangePairs bytes) ≡ 256 * wordSum bytes [MOD 65535] := by
  fun_induction exchangePairs bytes with
  | case1 first second rest ih =>
      have restAligned : Even rest.length := by
        simpa [Nat.even_add_one] using aligned
      have tail : wordSum (exchangePairs rest) % 65535 = 256 * wordSum rest % 65535 :=
        ih restAligned
      rw [wordSum_cons_cons, wordSum_cons_cons, Nat.ModEq]
      omega
  | case2 last => simp at aligned
  | case3 => rfl

theorem exchanged_modEq (word : Nat) : 256 * (word % 256) + word / 256 ≡ 256 * word [MOD 65535] := by
  rw [Nat.ModEq]
  omega

theorem store_checksum_eq_iff (bytes : List UInt8) :
    store .littleEndian (checksum bytes) =
        store .bigEndian (checksum (exchangePairs bytes)) ↔
      wordSum (exchangePairs bytes) ≡ 256 * wordSum bytes [MOD 65535] := by
  have below : foldCarries 16 (wordSum bytes) < 65536 := foldCarries_lt 16 _
  have exchangedBelow : foldCarries 16 (wordSum (exchangePairs bytes)) < 65536 :=
    foldCarries_lt 16 _
  have residue : foldCarries 16 (wordSum bytes) ≡ wordSum bytes [MOD 65535] :=
    foldCarries_modEq 16 _
  have zero := foldCarries_eq_zero_iff 16 (wordSum bytes)
  have exchangedZero := wordSum_exchangePairs_eq_zero_iff bytes
  have folded : _ ↔ _ = foldCarries 16 (wordSum (exchangePairs bytes)) :=
    eq_foldCarries_iff 16 _ (256 * (foldCarries 16 (wordSum bytes) % 256) +
      foldCarries 16 (wordSum bytes) / 256)
  have exchanged : 256 * (foldCarries 16 (wordSum bytes) % 256) +
      foldCarries 16 (wordSum bytes) / 256 ≡ 256 * wordSum bytes [MOD 65535] :=
    (exchanged_modEq _).trans (residue.mul_left 256)
  rw [store_eq_iff, checksum_toNat, checksum_toNat]
  constructor
  · intro stored
    obtain ⟨_, congruent, _⟩ := folded.mpr (by omega)
    exact congruent.symm.trans exchanged
  · intro congruent
    have same := folded.mp ⟨by omega, exchanged.trans congruent.symm, by omega⟩
    omega

/-- Only a nonzero last byte of an odd length tells the hosts apart: a big-endian host adds it
in the low half of a word instead of the high one. -/
theorem wordSum_exchangePairs_modEq_iff (bytes : List UInt8) :
    wordSum (exchangePairs bytes) ≡ 256 * wordSum bytes [MOD 65535] ↔
      Even bytes.length ∨ bytes.getLast? = some 0 := by
  cases List.eq_nil_or_concat bytes with
  | inl empty =>
      subst empty
      exact ⟨fun _ => .inl (by decide), fun _ => rfl⟩
  | inr ended =>
      obtain ⟨front, last, rfl⟩ := ended
      rw [List.concat_eq_append]
      by_cases aligned : Even front.length
      · have exchanged := wordSum_exchangePairs_modEq aligned
        have bound := last.toNat_lt
        have odd : ¬ Even (front ++ [last]).length := by
          simpa [Nat.even_add_one] using aligned
        have zero : (front ++ [last]).getLast? = some 0 ↔ last.toNat = 0 := by
          rw [List.getLast?_concat, Option.some.injEq, ← UInt8.toNat_inj, UInt8.toNat_zero]
        rw [zero, exchangePairs_append aligned,
          wordSum_append (by rwa [exchangePairs_length]), wordSum_append aligned]
        rw [Nat.ModEq] at exchanged ⊢
        simp only [exchangePairs, wordSum_singleton, odd, false_or]
        omega
      · have even : Even (front ++ [last]).length := by
          simpa [Nat.even_add_one] using aligned
        exact ⟨fun _ => .inl even, fun _ => wordSum_exchangePairs_modEq even⟩

/-- The bytes in which a little-endian host reads the words that `order` reads in `bytes`. -/
def arrange : ByteOrder → List UInt8 → List UInt8
  | .littleEndian, bytes => bytes
  | .bigEndian, bytes => exchangePairs bytes

variable (order : ByteOrder)

@[simp] theorem arrange_length (bytes : List UInt8) :
    (order.arrange bytes).length = bytes.length := by
  cases order with
  | littleEndian => rfl
  | bigEndian => exact exchangePairs_length bytes

theorem arrange_append {front : List UInt8} (aligned : Even front.length) (back : List UInt8) :
    order.arrange (front ++ back) = order.arrange front ++ order.arrange back := by
  cases order with
  | littleEndian => rfl
  | bigEndian => exact exchangePairs_append aligned back

@[simp] theorem arrange_nil : order.arrange [] = [] := by
  cases order with
  | littleEndian => rfl
  | bigEndian => rfl

@[simp] theorem arrange_singleton (last : UInt8) : order.arrange [last] = [last] := by
  cases order with
  | littleEndian => rfl
  | bigEndian => rfl

@[simp] theorem wordSum_arrange_cons_cons (first second : UInt8) (rest : List UInt8) :
    wordSum (order.arrange (first :: second :: rest)) =
      (order.load first second).toNat + wordSum (order.arrange rest) := by
  cases order with
  | littleEndian => rw [arrange, arrange, wordSum_cons_cons, load_littleEndian_toNat]
  | bigEndian =>
      rw [arrange, arrange, exchangePairs, wordSum_cons_cons, load_bigEndian_toNat]
      omega

theorem wordSum_arrange_append {front : List UInt8} (aligned : Even front.length)
    (back : List UInt8) : wordSum (order.arrange (front ++ back)) =
      wordSum (order.arrange front) + wordSum (order.arrange back) := by
  rw [arrange_append order aligned, wordSum_append (by rwa [arrange_length])]

@[simp] theorem wordSum_arrange_bytes (word : UInt16) (rest : List UInt8) :
    wordSum (order.arrange (order.bytes word ++ rest)) =
      word.toNat + wordSum (order.arrange rest) := by
  rw [bytes, List.cons_append, List.cons_append, List.nil_append, wordSum_arrange_cons_cons,
    load_store]

theorem wordSum_arrange_concat {front : List UInt8} (aligned : Even front.length)
    (word : UInt16) : wordSum (order.arrange (front ++ order.bytes word)) =
      wordSum (order.arrange front) + word.toNat := by
  have last := wordSum_arrange_bytes order word []
  rw [List.append_nil, arrange_nil, wordSum_nil, Nat.add_zero] at last
  rw [wordSum_arrange_append order aligned, last]

/-- Congruences between sums of whole words do not depend on the order. -/
theorem wordSum_arrange_modEq_iff {left right : List UInt8} (leftAligned : Even left.length)
    (rightAligned : Even right.length) :
    wordSum (order.arrange left) ≡ wordSum (order.arrange right) [MOD 65535] ↔
      wordSum left ≡ wordSum right [MOD 65535] := by
  cases order with
  | littleEndian => exact Iff.rfl
  | bigEndian =>
      have leftSum := wordSum_exchangePairs_modEq leftAligned
      have rightSum := wordSum_exchangePairs_modEq rightAligned
      rw [arrange, arrange]
      constructor
      · intro congruent
        have exchanged : 256 * wordSum left ≡ 256 * wordSum right [MOD 65535] :=
          leftSum.symm.trans (congruent.trans rightSum)
        exact exchanged.cancel_left_of_coprime (by decide)
      · intro congruent
        exact leftSum.trans ((congruent.mul_left 256).trans rightSum.symm)

/-- Whole words verify in both orders or in neither. -/
theorem checksum_arrange_eq_zero_iff {bytes : List UInt8} (aligned : Even bytes.length) :
    checksum (order.arrange bytes) = 0 ↔ checksum bytes = 0 := by
  have congruent :=
    wordSum_arrange_modEq_iff order aligned (show Even ([] : List UInt8).length by decide)
  have empty : wordSum (order.arrange bytes) = 0 ↔ wordSum bytes = 0 := by
    cases order with
    | littleEndian => exact Iff.rfl
    | bigEndian => exact wordSum_exchangePairs_eq_zero_iff bytes
  rw [arrange_nil, wordSum_nil, Nat.modEq_zero_iff_dvd, Nat.modEq_zero_iff_dvd] at congruent
  rw [checksum_eq_zero_iff, checksum_eq_zero_iff, congruent, Ne, empty]

end ByteOrder

end NetworkServices
