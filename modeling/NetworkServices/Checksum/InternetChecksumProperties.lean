import NetworkServices.Checksum.InternetChecksum
import NetworkServices.Foundation.TransportChecksum

/-! `internet_checksum` as the one's-complement checksum of the words its host reads, and what
a sender and a receiver may rely on. -/

set_option autoImplicit false

namespace NetworkServices.Checksum

open OnesComplement IntArithmetic

/-!
## The accumulator and the fold
-/

/-- Where the whole sum fits the accumulator, every partial sum did. -/
theorem sumWords_eq (order : ByteOrder) (bytes : List UInt8) {sum : Nat}
    (inRange : sum + wordSum (order.arrange bytes) < 2147483648) :
    sumWords order bytes (Int32.ofNat sum) =
      some (Int32.ofNat (sum + wordSum (order.arrange bytes))) := by
  induction bytes using wordSum.induct generalizing sum with
  | case1 first second rest ih =>
      rw [ByteOrder.wordSum_arrange_cons_cons] at inRange ⊢
      rw [sumWords, promoted, addInt_ofNat (by omega), Option.bind_some, ih (by omega),
        Nat.add_assoc]
  | case2 last =>
      rw [ByteOrder.arrange_singleton, wordSum_singleton] at inRange ⊢
      rw [sumWords, promotedByte, addInt_ofNat inRange]
  | case3 => rw [ByteOrder.arrange_nil, wordSum_nil, sumWords, Nat.add_zero]

theorem foldRound_of_carry {sum : Nat} (inRange : sum < 2147483648) (carries : 65536 ≤ sum) :
    foldRound (Int32.ofNat sum) = .inl (Int32.ofNat (sum % 65536 + sum / 65536)) := by
  have carry : ¬ Int32.ofNat (sum / 65536) = 0 := by
    rw [ofNat_eq_zero_iff (by omega)]
    omega
  rw [foldRound, shiftRight_ofNat inRange, if_pos carry, and_ofNat, addInt_ofNat (by omega)]

theorem foldRound_of_no_carry {sum : Nat} (settled : sum < 65536) :
    foldRound (Int32.ofNat sum) = .inr (some (~~~ UInt16.ofNat sum)) := by
  have noCarry : Int32.ofNat (sum / 65536) = 0 := by
    rw [ofNat_eq_zero_iff (by omega)]
    omega
  rw [foldRound, shiftRight_ofNat (by omega), if_neg (not_not.mpr noCarry), complement_ofNat]

/-- The first round leaves one carry at most, and the second cannot make another. -/
theorem fold_ofNat {sum : Nat} (inRange : sum < 2147483648) :
    iterate foldRound 3 (Int32.ofNat sum) =
      .inr (some (~~~ UInt16.ofNat (foldCarries 16 sum))) := by
  have ends {value : Nat} (settled : value < 65536) (tests : Nat) :
      iterate foldRound (tests + 1) (Int32.ofNat value) =
        .inr (some (~~~ UInt16.ofNat (foldCarries 16 value))) := by
    rw [iterate_of_result (foldRound_of_no_carry settled), foldCarries_of_lt 16 settled]
  have goesOn {value : Nat} (within : value < 2147483648) (carries : 65536 ≤ value) (tests : Nat) :
      iterate foldRound (tests + 1) (Int32.ofNat value) =
        iterate foldRound tests (Int32.ofNat (value % 65536 + value / 65536)) :=
    iterate_of_next (foldRound_of_carry within carries) tests
  have round {value : Nat} (carries : 65536 ≤ value) :
      foldCarries 16 (value % 65536 + value / 65536) = foldCarries 16 value :=
    foldCarries_round 16 carries
  rcases Nat.lt_or_ge sum 65536 with settled | carries
  · exact ends settled 2
  · rw [goesOn inRange carries 2, ← round carries]
    rcases Nat.lt_or_ge (sum % 65536 + sum / 65536) 65536 with settled | carriesAgain
    · exact ends settled 1
    · rw [goesOn (by omega) carriesAgain 1, ← round carriesAgain]
      exact ends (by omega) 0

theorem accumulated (order : ByteOrder) {bytes : List UInt8} (fits : bytes.length ≤ 65535) :
    wordSum (order.arrange bytes) < 2147483648 ∧
      sumWords order bytes 0 = some (Int32.ofNat (wordSum (order.arrange bytes))) := by
  have bound := wordSum_le (order.arrange bytes)
  rw [ByteOrder.arrange_length] at bound
  have inRange : 0 + wordSum (order.arrange bytes) < 2147483648 := by omega
  have summed := sumWords_eq order bytes inRange
  rw [Nat.zero_add] at inRange summed
  exact ⟨inRange, summed⟩

theorem internetChecksum_eq (order : ByteOrder) {bytes : List UInt8}
    (fits : bytes.length ≤ 65535) :
    internetChecksum order bytes 3 = .inr (some (checksum (order.arrange bytes))) := by
  obtain ⟨inRange, summed⟩ := accumulated order fits
  rw [internetChecksum, summed]
  exact fold_ofNat inRange

theorem internetChecksum_eq_rfc1071 {bytes : List UInt8} (fits : bytes.length ≤ 65535) :
    (∃ sum, sumWords .littleEndian bytes 0 = some sum ∧ sum.toInt = wordSum bytes) ∧
      ∃ s, (∀ t, t ≤ 65535 ∧ t ≡ wordSum bytes [MOD 65535] ∧ (t = 0 ↔ wordSum bytes = 0) ↔ t = s) ∧
        ∃ result, internetChecksum .littleEndian bytes 3 = .inr (some result) ∧
          result.toNat = 0xffff - s := by
  obtain ⟨inRange, summed⟩ := accumulated .littleEndian fits
  refine ⟨⟨_, summed, Int32.toInt_ofNat_of_lt inRange⟩, foldCarries 16 (wordSum bytes), ?_, ?_⟩
  · exact eq_foldCarries_iff 16 (wordSum bytes)
  · exact ⟨_, internetChecksum_eq .littleEndian fits, checksum_toNat bytes⟩

theorem internetChecksum_eq_rfc1071_odd :
    [(0x45 : UInt8), 0x00, 0x07].length ≤ 65535 ∧
      ∃ result, internetChecksum .littleEndian [0x45, 0x00, 0x07] 3 = .inr (some result) ∧
        result.toNat = 0xffff - 0x4c := by
  have fits : [(0x45 : UInt8), 0x00, 0x07].length ≤ 65535 := by decide
  obtain ⟨_, s, unique, result, returned, complement⟩ := internetChecksum_eq_rfc1071 fits
  have folded : 0x4c = s := (unique 0x4c).mp (by decide)
  subst folded
  exact ⟨fits, result, returned, complement⟩

/-!
## Sender and receiver
-/

/-- An aligned word of a buffer, between whole words and the rest. -/
theorem exists_word {bytes : List UInt8} {k : Nat} (room : k + 2 ≤ bytes.length) :
    ∃ front first second rest, bytes = front ++ first :: second :: rest ∧ front.length = k := by
  refine ⟨bytes.take k, bytes[k], bytes[k + 1], bytes.drop (k + 2), ?_, ?_⟩
  · rw [List.getElem_cons_drop, List.getElem_cons_drop, List.take_append_drop]
  · rw [List.length_take]
    omega

section Word

variable (order : ByteOrder) {front : List UInt8} (aligned : Even front.length)

include aligned

theorem wordSum_arrange_word (first second : UInt8) (rest : List UInt8) :
    wordSum (order.arrange (front ++ first :: second :: rest)) =
      wordSum (order.arrange front) + wordSum (order.arrange rest) +
        (order.load first second).toNat := by
  rw [ByteOrder.wordSum_arrange_append order aligned, ByteOrder.wordSum_arrange_cons_cons]
  omega

theorem wordSum_arrange_last (last : UInt8) :
    wordSum (order.arrange (front ++ [last])) = wordSum (order.arrange front) + last.toNat := by
  rw [ByteOrder.wordSum_arrange_append order aligned, ByteOrder.arrange_singleton,
    wordSum_singleton]

end Word

theorem storeShort_word (order : ByteOrder) (front : List UInt8) (first second : UInt8)
    (rest : List UInt8) (value : UInt16) :
    storeShort order (front ++ first :: second :: rest) front.length value =
      front ++ (order.store value).1 :: (order.store value).2 :: rest := by
  simp [storeShort]

@[simp] theorem storeShort_length (order : ByteOrder) (bytes : List UInt8) (k : Nat)
    (value : UInt16) : (storeShort order bytes k value).length = bytes.length := by
  simp [storeShort]

/-- What a sender stores makes the checksum of the whole plus zero on a host of the same
byte order. -/
theorem internetChecksum_verifies (order : ByteOrder) {bytes : List UInt8} {k : Nat}
    (fits : bytes.length ≤ 65535) (aligned : Even k) (room : k + 2 ≤ bytes.length) :
    ∃ c, internetChecksum order ((bytes.set k 0).set (k + 1) 0) 3 = .inr (some c) ∧
      internetChecksum order (storeShort order ((bytes.set k 0).set (k + 1) 0) k c) 3 =
        .inr (some 0) := by
  obtain ⟨front, first, second, rest, rfl, rfl⟩ := exists_word room
  have zeroed : ((front ++ first :: second :: rest).set front.length 0).set (front.length + 1) 0 =
      front ++ 0 :: 0 :: rest := by
    simp
  have zeroedFits : (front ++ 0 :: 0 :: rest).length ≤ 65535 := by
    simpa using fits
  have blank : front ++ 0 :: 0 :: rest = front ++ (order.bytes 0 ++ rest) := by
    rw [ByteOrder.bytes_zero]
    rfl
  rw [zeroed]
  refine ⟨_, internetChecksum_eq order zeroedFits, ?_⟩
  rw [internetChecksum_eq order (by rwa [storeShort_length]), storeShort_word, blank,
    Sum.inr.injEq, Option.some.injEq]
  exact checksum_sealed order aligned rfl

theorem internetChecksum_verifies_odd :
    Even 2 ∧ 2 + 2 ≤ [(0x08 : UInt8), 0x00, 0x12, 0x34, 0x01].length ∧
      ∃ c, internetChecksum .bigEndian [0x08, 0x00, 0x00, 0x00, 0x01] 3 = .inr (some c) ∧
        internetChecksum .bigEndian
          (storeShort .bigEndian [0x08, 0x00, 0x00, 0x00, 0x01] 2 c) 3 = .inr (some 0) := by
  have fits : [(0x08 : UInt8), 0x00, 0x12, 0x34, 0x01].length ≤ 65535 := by decide
  have aligned : Even 2 := by decide
  have room : 2 + 2 ≤ [(0x08 : UInt8), 0x00, 0x12, 0x34, 0x01].length := by decide
  exact ⟨aligned, room, internetChecksum_verifies .bigEndian fits aligned room⟩

/-- A buffer with one aligned word replaced, or with the byte an odd length leaves over.
The words are those the host reads; the two zeros of the arithmetic do not count as a change. -/
inductive Corrupted (order : ByteOrder) : List UInt8 → List UInt8 → Prop where
  | word {front rest : List UInt8} {first second first' second' : UInt8}
      (aligned : Even front.length)
      (differs : order.load first second ≠ order.load first' second')
      (notZeros : ¬ (order.load first second = 0x0000 ∧ order.load first' second' = 0xffff))
      (notOnes : ¬ (order.load first second = 0xffff ∧ order.load first' second' = 0x0000)) :
      Corrupted order (front ++ first :: second :: rest) (front ++ first' :: second' :: rest)
  | lastByte {front : List UInt8} {last last' : UInt8} (aligned : Even front.length)
      (differs : last ≠ last') : Corrupted order (front ++ [last]) (front ++ [last'])

theorem Corrupted.length_eq {order : ByteOrder} {before after : List UInt8}
    (corrupted : Corrupted order before after) : before.length = after.length := by
  cases corrupted with
  | word => simp
  | lastByte => simp

theorem Corrupted.checksum_ne_zero {order : ByteOrder} {before after : List UInt8}
    (corrupted : Corrupted order before after)
    (verified : checksum (order.arrange before) = 0) : checksum (order.arrange after) ≠ 0 := by
  intro verified'
  cases corrupted with
  | @word front rest first second first' second' aligned differs notZeros notOnes =>
      rw [Ne, ← UInt16.toNat_inj] at differs
      rw [← UInt16.toNat_inj, ← UInt16.toNat_inj] at notZeros notOnes
      have bound := (order.load first second).toNat_lt
      have bound' := (order.load first' second').toNat_lt
      rcases word_of_checksums_zero (by omega) (by omega)
        (wordSum_arrange_word order aligned first second rest)
        (wordSum_arrange_word order aligned first' second' rest) verified verified' with
        same | zeros | ones
      · exact differs same
      · exact notZeros zeros
      · exact notOnes ones
  | @lastByte front last last' aligned differs =>
      rw [Ne, ← UInt8.toNat_inj] at differs
      have bound := last.toNat_lt
      have bound' := last'.toNat_lt
      have changed := word_of_checksums_zero (by omega) (by omega)
        (wordSum_arrange_last order aligned last) (wordSum_arrange_last order aligned last')
        verified verified'
      omega

theorem internetChecksum_detects (order : ByteOrder) {before after : List UInt8}
    (fits : before.length ≤ 65535) (verified : internetChecksum order before 3 = .inr (some 0))
    (corrupted : Corrupted order before after) :
    ∃ c, internetChecksum order after 3 = .inr (some c) ∧ c ≠ 0 := by
  have fitsAfter : after.length ≤ 65535 := by
    rwa [← corrupted.length_eq]
  rw [internetChecksum_eq order fits, Sum.inr.injEq, Option.some.injEq] at verified
  exact ⟨_, internetChecksum_eq order fitsAfter, corrupted.checksum_ne_zero verified⟩

theorem internetChecksum_detects_word :
    ∃ c, internetChecksum .littleEndian [0x02, 0x00, 0xfe, 0xff] 3 = .inr (some c) ∧ c ≠ 0 := by
  have fits : [(0x01 : UInt8), 0x00, 0xfe, 0xff].length ≤ 65535 := by decide
  have verified : internetChecksum .littleEndian [0x01, 0x00, 0xfe, 0xff] 3 = .inr (some 0) := rfl
  have corrupted : Corrupted .littleEndian ([] ++ 0x01 :: 0x00 :: [0xfe, 0xff])
      ([] ++ 0x02 :: 0x00 :: [0xfe, 0xff]) :=
    .word (by decide) (by decide) (by decide) (by decide)
  exact internetChecksum_detects .littleEndian fits verified corrupted

/-!
## The other byte order
-/

theorem internetChecksum_same_bytes_iff {bytes : List UInt8} (fits : bytes.length ≤ 65535) :
    (∃ little big, internetChecksum .littleEndian bytes 3 = .inr (some little) ∧
        internetChecksum .bigEndian bytes 3 = .inr (some big) ∧
        ByteOrder.store .littleEndian little = ByteOrder.store .bigEndian big) ↔
      Even bytes.length ∨ bytes.getLast? = some 0 := by
  rw [← ByteOrder.wordSum_exchangePairs_modEq_iff, ← ByteOrder.store_checksum_eq_iff]
  constructor
  · intro stored
    obtain ⟨little, big, littleReturned, bigReturned, same⟩ := stored
    rw [internetChecksum_eq .littleEndian fits, Sum.inr.injEq, Option.some.injEq] at littleReturned
    rw [internetChecksum_eq .bigEndian fits, Sum.inr.injEq, Option.some.injEq] at bigReturned
    subst littleReturned bigReturned
    exact same
  · intro same
    exact ⟨_, _, internetChecksum_eq .littleEndian fits, internetChecksum_eq .bigEndian fits, same⟩

theorem internetChecksum_same_bytes_iff_even :
    (∃ little big, internetChecksum .littleEndian [0x45, 0x00] 3 = .inr (some little) ∧
        internetChecksum .bigEndian [0x45, 0x00] 3 = .inr (some big) ∧
        ByteOrder.store .littleEndian little = ByteOrder.store .bigEndian big) := by
  have fits : [(0x45 : UInt8), 0x00].length ≤ 65535 := by decide
  exact (internetChecksum_same_bytes_iff fits).mpr (.inl (by decide))

theorem internetChecksum_odd_byte_differs :
    ¬ ∀ bytes : List UInt8, bytes.length ≤ 65535 →
      ∃ little big, internetChecksum .littleEndian bytes 3 = .inr (some little) ∧
        internetChecksum .bigEndian bytes 3 = .inr (some big) ∧
        ByteOrder.store .littleEndian little = ByteOrder.store .bigEndian big := by
  intro independent
  obtain ⟨little, big, littleReturned, bigReturned, same⟩ := independent [0x01] (by decide)
  have littleValue : internetChecksum .littleEndian [0x01] 3 = .inr (some 0xfffe) := rfl
  have bigValue : internetChecksum .bigEndian [0x01] 3 = .inr (some 0xfffe) := rfl
  rw [littleValue, Sum.inr.injEq, Option.some.injEq] at littleReturned
  rw [bigValue, Sum.inr.injEq, Option.some.injEq] at bigReturned
  subst littleReturned bigReturned
  exact absurd same (by decide)


end NetworkServices.Checksum
