import NetworkServices.Foundation.ByteOrder

/-! The internet checksum as a transport protocol uses it: over a pseudo-header that is not sent
with the segment, and stored in a field of the segment that counts as zero in the sum. -/

set_option autoImplicit false

namespace NetworkServices

open OnesComplement

/-- The addresses, the protocol and the length of a segment that IPv4 carries. -/
def pseudoHeader4 (source destination : List UInt8) (protocol : UInt8) (length : UInt16) :
    List UInt8 :=
  source ++ destination ++ [0, protocol] ++ ByteOrder.bytes .bigEndian length

/-- The addresses, the length and the next header of a segment that IPv6 carries. -/
def pseudoHeader6 (source destination : List UInt8) (length : UInt32) (nextHeader : UInt8) :
    List UInt8 :=
  source ++ destination ++ ByteOrder.longBytes .bigEndian length ++ [0, 0, 0, nextHeader]

/-- A checksum of zero is sent as the other zero, since a field of zero means that there is none. -/
def transmitted (sum : UInt16) : UInt16 :=
  if sum = 0 then 0xffff else sum

theorem transmitted_ne_zero (sum : UInt16) : transmitted sum ≠ 0 := by
  unfold transmitted
  split
  · decide
  · assumption

theorem transmitted_modEq (sum : UInt16) : (transmitted sum).toNat ≡ sum.toNat [MOD 65535] := by
  unfold transmitted
  split
  · next zero =>
      subst zero
      decide
  · exact Nat.ModEq.refl _

/-!
## The field of the checksum
-/

/-- A segment summed with a field of zero verifies once the checksum stands there. -/
theorem checksum_sealed (order : ByteOrder) {front rest : List UInt8} {sum : UInt16}
    (aligned : Even front.length)
    (computed : sum = checksum (order.arrange (front ++ (order.bytes 0 ++ rest)))) :
    checksum (order.arrange (front ++ (order.bytes sum ++ rest))) = 0 := by
  have field (word : UInt16) : wordSum (order.arrange (front ++ (order.bytes word ++ rest))) =
      wordSum (order.arrange front) + (word.toNat + wordSum (order.arrange rest)) := by
    rw [ByteOrder.wordSum_arrange_append order aligned, ByteOrder.wordSum_arrange_bytes]
  have added : wordSum (order.arrange (front ++ (order.bytes sum ++ rest))) =
      wordSum (order.arrange (front ++ (order.bytes 0 ++ rest))) +
        (checksum (order.arrange (front ++ (order.bytes 0 ++ rest)))).toNat := by
    rw [← computed, field, field, UInt16.toNat_zero]
    omega
  exact checksum_eq_zero_of_added added

section Sums

variable {summed received : List UInt8} {others : Nat}

/-- A receiver accepts what was computed from another sum exactly when the two sums are
congruent. -/
theorem received_verifies_iff
    (sum : wordSum received = others + (transmitted (checksum summed)).toNat) :
    checksum received = 0 ↔ others ≡ wordSum summed [MOD 65535] := by
  have stored : (transmitted (checksum summed)).toNat ≠ 0 := fun zero =>
    transmitted_ne_zero _ (UInt16.toNat_inj.mp zero)
  have opposite := checksum_add_wordSum summed
  have congruent := transmitted_modEq (checksum summed)
  rw [checksum_eq_zero_iff, sum]
  rw [Nat.ModEq] at congruent ⊢
  constructor
  · intro verified
    obtain ⟨_, multiple⟩ := verified
    omega
  · intro same
    exact ⟨by omega, by omega⟩

/-- Of the words other than zero one alone verifies. -/
theorem eq_transmitted_iff {word : UInt16} (nonzero : word ≠ 0)
    (sum : wordSum received = wordSum summed + word.toNat) :
    word = transmitted (checksum summed) ↔ checksum received = 0 := by
  have opposite := checksum_add_wordSum summed
  have congruent := transmitted_modEq (checksum summed)
  have stored := transmitted_ne_zero (checksum summed)
  have bound := word.toNat_lt
  have storedBound := (transmitted (checksum summed)).toNat_lt
  rw [Ne, ← UInt16.toNat_inj, UInt16.toNat_zero] at nonzero stored
  rw [checksum_eq_zero_iff, sum, ← UInt16.toNat_inj]
  rw [Nat.ModEq] at congruent
  constructor
  · intro same
    exact ⟨by omega, by omega⟩
  · intro verified
    obtain ⟨_, multiple⟩ := verified
    omega

end Sums

/-- The one content of a field, other than zero, with which a segment verifies. -/
theorem field_eq_transmitted_iff (order : ByteOrder) {front : List UInt8}
    (aligned : Even front.length) {first second : UInt8} (present : [first, second] ≠ [0, 0]) :
    [first, second] = order.bytes (transmitted (checksum (order.arrange (front ++ [0, 0])))) ↔
      checksum (order.arrange (front ++ [first, second])) = 0 := by
  have content := order.bytes_load first second
  have nonzero : order.load first second ≠ 0 := by
    intro zero
    rw [zero, ByteOrder.bytes_zero] at content
    exact present content.symm
  have sum : wordSum (order.arrange (front ++ [first, second])) =
      wordSum (order.arrange (front ++ [0, 0])) + (order.load first second).toNat := by
    rw [← content, ← ByteOrder.bytes_zero order, ByteOrder.wordSum_arrange_concat order aligned,
      ByteOrder.wordSum_arrange_concat order aligned, UInt16.toNat_zero, Nat.add_zero]
  rw [← eq_transmitted_iff nonzero sum]
  constructor
  · intro same
    exact order.bytes_injective (content.trans same)
  · intro same
    rw [← same, content]

end NetworkServices
