import NetworkServices.Foundation.CString
import Mathlib.Algebra.Group.Nat.Defs

/-! Numbers that are printed by `"%d"` and read back. A numeral ends where no digit follows, so
what stands behind it can be told from it. -/

set_option autoImplicit false

namespace NetworkServices

/-- No digit of a numeral in front would go on here. -/
def EndsNumeral (rest : CString) : Prop :=
  ∀ char ∈ rest.head?, isdigit char = false

theorem endsNumeral_cons {char : UInt8} {rest : CString} (other : isdigit char = false) :
    EndsNumeral (char :: rest) := by
  rintro _ ⟨⟩
  exact other

theorem endsNumeral_nil : EndsNumeral [] := by
  rintro _ ⟨⟩

theorem isDigit_toNat {char : Char} (digit : char.isDigit = true) :
    48 ≤ char.toNat ∧ char.toNat ≤ 57 := by
  simp only [Char.isDigit, Bool.and_eq_true, decide_eq_true_eq] at digit
  exact digit

theorem isdigit_of_isDigit {char : Char} (digit : char.isDigit = true) :
    isdigit (UInt8.ofNat char.toNat) = true ∧
      (UInt8.ofNat char.toNat).toNat - 48 = char.toNat - '0'.toNat := by
  have range := isDigit_toNat digit
  have same : (UInt8.ofNat char.toNat).toNat = char.toNat :=
    UInt8.toNat_ofNat_of_lt' (Nat.lt_of_le_of_lt range.2 (by decide))
  refine ⟨?_, congrArg (· - 48) same⟩
  simp only [isdigit, Bool.and_eq_true, decide_eq_true_eq, UInt8.le_iff_toNat_le, same]
  exact range

theorem digitsValue_of_digits {digits : List Char} (all : ∀ char ∈ digits, char.isDigit = true)
    (value : Nat) {rest : CString} (ends : EndsNumeral rest) :
    digitsValue value (digits.map (fun char => UInt8.ofNat char.toNat) ++ rest) =
      Nat.ofDigitChars 10 digits value := by
  induction digits generalizing value with
  | nil =>
      rw [Nat.ofDigitChars_nil]
      cases rest with
      | nil => rfl
      | cons char rest =>
          have other := ends char rfl
          exact if_neg (ne_true_of_eq_false other)
  | cons char digits ih =>
      rw [List.forall_mem_cons] at all
      obtain ⟨digit, same⟩ := isdigit_of_isDigit all.1
      rw [Nat.ofDigitChars_cons, List.map_cons, List.cons_append, digitsValue, if_pos digit, same]
      exact ih all.2 _

theorem digits_toDigits (value : Nat) :
    ∀ char ∈ Nat.toDigits 10 value, char.isDigit = true := by
  intro char member
  exact Nat.isDigit_of_mem_toDigits (by decide) (by decide) member

theorem digitsValue_decimal (value : Nat) {rest : CString} (ends : EndsNumeral rest) :
    digitsValue 0 (decimal value ++ rest) = value := by
  rw [decimal, digitsValue_of_digits (digits_toDigits value) 0 ends]
  exact Nat.ofDigitChars_ten_toDigits

theorem isdigit_of_mem_decimal {value : Nat} {char : UInt8} (member : char ∈ decimal value) :
    isdigit char = true := by
  obtain ⟨digit, inside, rfl⟩ := List.mem_map.mp member
  exact (isdigit_of_isDigit (digits_toDigits value digit inside)).1

theorem exists_decimal_cons (value : Nat) :
    ∃ char rest, decimal value = char :: rest ∧ isdigit char = true := by
  cases printed : decimal value with
  | nil => exact absurd (List.map_eq_nil_iff.mp printed) Nat.toDigits_ne_nil
  | cons char rest =>
      have first : char ∈ decimal value := by
        rw [printed]
        exact .head _
      exact ⟨char, rest, rfl, isdigit_of_mem_decimal first⟩

theorem decimal_length_le {value width : Nat} (small : value < 10 ^ width) (positive : 0 < width) :
    (decimal value).length ≤ width := by
  rw [decimal, List.length_map]
  exact (Nat.length_toDigits_le_iff (by decide) positive).mpr small

/-- A decimal numeral that starts with a digit is read without a sign. -/
theorem decimalValue_decimal (value : Nat) {rest : CString} (ends : EndsNumeral rest) :
    decimalValue (decimal value ++ rest) = value := by
  obtain ⟨char, digits, printed, digit⟩ := exists_decimal_cons value
  have back := digitsValue_decimal value ends
  rw [printed, List.cons_append] at back ⊢
  have stays : (char :: (digits ++ rest)).dropWhile isspace = char :: (digits ++ rest) :=
    List.dropWhile_cons_of_neg fun white => not_isdigit_of_isspace white digit
  unfold decimalValue
  rw [stays]
  split
  · next minus => cases minus; cases digit
  · next plus => cases plus; cases digit
  · exact congrArg Int.ofNat back

/-- What `"%d"` prints is read back. -/
theorem decimalValue_signedDecimal (value : Int32) {rest : CString} (ends : EndsNumeral rest) :
    decimalValue (signedDecimal value ++ rest) = value.toInt := by
  rw [signedDecimal]
  by_cases negative : value < 0
  · have below : value.toInt < 0 := Int32.lt_iff_toInt_lt.mp negative
    rw [if_pos negative]
    have back := digitsValue_decimal value.toInt.natAbs ends
    show -(digitsValue 0 (decimal value.toInt.natAbs ++ rest) : Int) = value.toInt
    rw [back]
    omega
  · have above : ¬ value.toInt < 0 := fun below => negative (Int32.lt_iff_toInt_lt.mpr below)
    rw [if_neg negative, decimalValue_decimal _ ends]
    omega

theorem signedDecimal_append_inj {value other : Int32} {rest rest' : CString}
    (ends : EndsNumeral rest) (ends' : EndsNumeral rest')
    (same : signedDecimal value ++ rest = signedDecimal other ++ rest') :
    value = other ∧ rest = rest' := by
  have values := congrArg decimalValue same
  rw [decimalValue_signedDecimal value ends, decimalValue_signedDecimal other ends'] at values
  have equal := Int32.toInt_inj.mp values
  subst equal
  exact ⟨rfl, List.append_cancel_left same⟩

theorem signedDecimal_length_le (value : Int32) : (signedDecimal value).length ≤ 11 := by
  have least := value.le_toInt
  have greatest := value.toInt_lt
  have digits : (decimal value.toInt.natAbs).length ≤ 10 :=
    decimal_length_le (by omega) (by decide)
  rw [signedDecimal]
  split
  · show (decimal value.toInt.natAbs).length + 1 ≤ 11
    exact Nat.succ_le_succ digits
  · exact Nat.le_succ_of_le digits

theorem signedDecimal_nulFree (value : Int32) : 0 ∉ signedDecimal value := by
  have digits : 0 ∉ decimal value.toInt.natAbs := by
    intro member
    exact absurd (isdigit_of_mem_decimal member) (by decide)
  rw [signedDecimal]
  split
  · exact List.not_mem_cons_of_ne_of_not_mem (by decide) digits
  · exact digits

end NetworkServices
