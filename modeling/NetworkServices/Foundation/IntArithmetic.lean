/-! A 32-bit `int`: its addition, which must not overflow, and what its operators compute on
values that are not negative. -/

set_option autoImplicit false

namespace NetworkServices.IntArithmetic

/-- Addition of `int`. A sum outside the range of the type is undefined. -/
def addInt (left right : Int32) : Option Int32 :=
  if Int32.minValue.toInt ≤ left.toInt + right.toInt ∧
      left.toInt + right.toInt ≤ Int32.maxValue.toInt then
    some (left + right)
  else none

theorem addInt_ofNat {left right : Nat} (inRange : left + right < 2147483648) :
    addInt (Int32.ofNat left) (Int32.ofNat right) = some (Int32.ofNat (left + right)) := by
  have least : Int32.minValue.toInt = -2147483648 := by decide
  have greatest : Int32.maxValue.toInt = 2147483647 := by decide
  unfold addInt
  rw [Int32.toInt_ofNat_of_lt (by omega), Int32.toInt_ofNat_of_lt (by omega), least, greatest,
    if_pos (by omega), Int32.ofNat_add]

theorem toUInt16_of_toInt {value : Int32} {number : Nat} (inRange : number ≤ 65535)
    (denoted : value.toInt = number) : value.toUInt32.toUInt16 = UInt16.ofNat number := by
  have same : value = Int32.ofNat number := by
    rw [← Int32.toInt_inj, denoted, Int32.toInt_ofNat_of_lt (by omega)]
  rw [same, Int32.toUInt32_ofNat', UInt32.toUInt16_ofNat']

theorem promoted (word : UInt16) : word.toUInt32.toInt32 = Int32.ofNat word.toNat := by
  calc word.toUInt32.toInt32 = (UInt16.ofNat word.toNat).toUInt32.toInt32 := by
        rw [UInt16.ofNat_toNat]
    _ = Int32.ofNat word.toNat := by
        rw [UInt16.toUInt32_ofNat' word.toNat_lt, UInt32.toInt32_ofNat']

theorem promotedByte (byte : UInt8) : byte.toUInt32.toInt32 = Int32.ofNat byte.toNat := by
  calc byte.toUInt32.toInt32 = (UInt8.ofNat byte.toNat).toUInt32.toInt32 := by
        rw [UInt8.ofNat_toNat]
    _ = Int32.ofNat byte.toNat := by
        rw [UInt8.toUInt32_ofNat' byte.toNat_lt, UInt32.toInt32_ofNat']

theorem shiftRight_ofNat {sum : Nat} (inRange : sum < 2147483648) :
    Int32.ofNat sum >>> 16 = Int32.ofNat (sum / 65536) := by
  have nonnegative : (Int32.ofNat sum).toBitVec.msb = false := by
    rw [Int32.toBitVec_ofNat', BitVec.msb_eq_false_iff_two_mul_lt, BitVec.toNat_ofNat]
    omega
  have amount : (Int32.toBitVec 16).smod 32 = 16#32 := by decide
  have shifted : (Int32.ofNat sum).toBitVec.sshiftRight' 16#32 =
      (Int32.ofNat sum).toBitVec.sshiftRight 16 := rfl
  rw [← Int32.toBitVec_inj, Int32.toBitVec_shiftRight, amount, shifted,
    BitVec.sshiftRight_eq_of_msb_false nonnegative]
  apply BitVec.eq_of_toNat_eq
  simp only [Int32.toBitVec_ofNat', BitVec.toNat_ushiftRight, BitVec.toNat_ofNat,
    Nat.shiftRight_eq_div_pow, Nat.reducePow]
  omega

theorem and_ofNat (sum : Nat) :
    Int32.ofNat sum &&& 0xffff = Int32.ofNat (sum % 65536) := by
  have mask (value : Nat) : value &&& 65535 = value % 65536 :=
    Nat.and_two_pow_sub_one_eq_mod value 16
  rw [← Int32.toBitVec_inj, Int32.toBitVec_and]
  apply BitVec.eq_of_toNat_eq
  simp only [Int32.toBitVec_ofNat', BitVec.toNat_and, BitVec.toNat_ofNat,
    Int32.toBitVec_ofNat, BitVec.reduceToNat, Nat.reducePow, mask]
  omega

theorem complement_ofNat (sum : Nat) :
    (~~~ Int32.ofNat sum).toUInt32.toUInt16 = ~~~ UInt16.ofNat sum := by
  have unsigned : (~~~ Int32.ofNat sum).toUInt32 = ~~~ UInt32.ofNat sum := rfl
  rw [unsigned, UInt32.toUInt16_not, UInt32.toUInt16_ofNat']

theorem ofNat_eq_zero_iff {sum : Nat} (inRange : sum < 2147483648) :
    Int32.ofNat sum = 0 ↔ sum = 0 := by
  rw [← Int32.toInt_inj, Int32.toInt_ofNat_of_lt (by omega), Int32.toInt_zero]
  omega

end NetworkServices.IntArithmetic
