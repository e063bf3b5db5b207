import Mathlib.Data.List.Basic
import Mathlib.Data.List.Induction
import Mathlib.Data.List.TakeWhile

/-! C strings as the bytes in front of their terminator, fixed buffers that hold
them, and the parts of `<ctype.h>` and `<stdlib.h>` that read them. -/

set_option autoImplicit false

namespace NetworkServices

/-- The bytes of a C string, its terminating NUL left out. -/
abbrev CString := List UInt8

def ascii (text : String) : CString :=
  text.toList.map fun char => UInt8.ofNat char.toNat

def decimal (value : Nat) : CString :=
  (Nat.toDigits 10 value).map fun char => UInt8.ofNat char.toNat

/-- `"%d"` -/
def signedDecimal (value : Int32) : CString :=
  if value < 0 then ascii "-" ++ decimal value.toInt.natAbs else decimal value.toInt.natAbs

def hexDigit (value : Nat) : UInt8 :=
  if value < 10 then UInt8.ofNat (48 + value) else UInt8.ofNat (87 + value)

/-- `"%02x"` -/
def hexadecimal (byte : UInt8) : CString :=
  [hexDigit (byte.toNat / 16), hexDigit (byte.toNat % 16)]

/-- The string a buffer holds: what stands in front of its first NUL. -/
def cString (buffer : List UInt8) : CString :=
  buffer.takeWhile (· ≠ 0)

/-- What a call that delivers `message` leaves of a buffer: the bytes behind the
message keep their values. -/
def overlay (message buffer : List UInt8) : List UInt8 :=
  message ++ buffer.drop message.length

def strstr : CString → CString → Bool
  | [], part => part.isEmpty
  | char :: text, part => part.isPrefixOf (char :: text) || strstr text part

def isdigit (char : UInt8) : Bool := 48 ≤ char && char ≤ 57

def isalpha (char : UInt8) : Bool := (65 ≤ char && char ≤ 90) || (97 ≤ char && char ≤ 122)

def isspace (char : UInt8) : Bool := char == 32 || (9 ≤ char && char ≤ 13)

theorem not_isdigit_of_isspace {char : UInt8} (white : isspace char = true) :
    ¬ isdigit char = true := by
  simp only [isspace, isdigit, Bool.or_eq_true, Bool.and_eq_true, beq_iff_eq, decide_eq_true_eq,
    UInt8.le_iff_toNat_le, ← UInt8.toNat_inj] at *
  simp at *
  omega

theorem not_isalpha_of_isspace {char : UInt8} (white : isspace char = true) :
    ¬ isalpha char = true := by
  simp only [isspace, isalpha, Bool.or_eq_true, Bool.and_eq_true, beq_iff_eq, decide_eq_true_eq,
    UInt8.le_iff_toNat_le, ← UInt8.toNat_inj] at *
  simp at *
  omega

/-- The value of the digits a string starts with, behind those already read. -/
def digitsValue (value : Nat) : CString → Nat
  | [] => value
  | char :: rest =>
      if isdigit char then digitsValue (10 * value + (char.toNat - 48)) rest else value

/-- The subject sequence of `strtol` in base ten: optional white space, an
optional sign, and digits. -/
def decimalValue (text : CString) : Int :=
  match text.dropWhile isspace with
  | 45 :: digits => -(digitsValue 0 digits : Int)
  | 43 :: digits => digitsValue 0 digits
  | digits => digitsValue 0 digits

/-- `strtol(text, NULL, 10)` where `long` has 64 bits: out of range it saturates. -/
def strtol (text : CString) : Int :=
  max (-9223372036854775808) (min 9223372036854775807 (decimalValue text))

/-- `atoi(text)` as the C library defines it, the conversion of `strtol` to `int`. -/
def atoi (text : CString) : Int32 :=
  Int32.ofInt (strtol text)

section Numerals

/-- A decimal numeral: digits and nothing else. -/
def IsNumeral (text : CString) : Prop :=
  text ≠ [] ∧ ∀ char ∈ text, isdigit char = true

instance (text : CString) : Decidable (IsNumeral text) :=
  inferInstanceAs (Decidable (_ ∧ _))

variable {text : CString}

theorem decimalValue_of_isNumeral (numeral : IsNumeral text) :
    decimalValue text = digitsValue 0 text := by
  obtain ⟨nonempty, digits⟩ := numeral
  cases text with
  | nil => exact absurd rfl nonempty
  | cons char rest =>
      have digit := digits char List.mem_cons_self
      have stays : (char :: rest).dropWhile isspace = char :: rest :=
        List.dropWhile_cons_of_neg fun white => not_isdigit_of_isspace white digit
      unfold decimalValue
      rw [stays]
      split
      · next minus => cases minus; cases digit
      · next plus => cases plus; cases digit
      · rfl

theorem strtol_of_isNumeral (numeral : IsNumeral text) :
    strtol text = min 9223372036854775807 (digitsValue 0 text) := by
  unfold strtol
  rw [decimalValue_of_isNumeral numeral]
  omega

end Numerals

section Buffers

variable {message buffer rest : List UInt8}

@[simp] theorem cString_nil : cString [] = [] := rfl

@[simp] theorem cString_terminated (rest : List UInt8) : cString (0 :: rest) = [] := rfl

theorem cString_append_of_nulFree (nulFree : 0 ∉ message) (rest : List UInt8) :
    cString (message ++ rest) = message ++ cString rest := by
  refine List.takeWhile_append_of_pos fun byte member => ?_
  simpa using fun zero : byte = 0 => nulFree (zero ▸ member)

theorem zero_not_mem_cString (buffer : List UInt8) : 0 ∉ cString buffer := by
  intro member
  have nonzero := List.mem_takeWhile_imp member
  cases nonzero

theorem cString_append_zero (text : List UInt8) : cString (text ++ [0]) = cString text := by
  induction text with
  | nil => rfl
  | cons byte text ih =>
      rw [cString, cString, List.cons_append, List.takeWhile_cons, List.takeWhile_cons]
      split
      · exact congrArg (List.cons byte) ih
      · rfl

theorem cString_length_le (buffer : List UInt8) : (cString buffer).length ≤ buffer.length :=
  (List.takeWhile_sublist _).length_le

theorem cString_append_length_lt_iff (buffer beyond : List UInt8) :
    (cString (buffer ++ beyond)).length < buffer.length ↔ 0 ∈ buffer := by
  induction buffer with
  | nil => exact iff_of_false (Nat.not_lt_zero _) List.not_mem_nil
  | cons byte buffer ih =>
      cases decEq byte 0 with
      | isTrue zero =>
          rw [zero]
          exact iff_of_true (Nat.succ_pos _) List.mem_cons_self
      | isFalse nonzero =>
          have kept : cString (byte :: (buffer ++ beyond)) = byte :: cString (buffer ++ beyond) :=
            List.takeWhile_cons_of_pos (by simpa using nonzero)
          rw [List.cons_append, kept, List.length_cons, List.length_cons, Nat.add_lt_add_iff_right,
            ih, List.mem_cons, or_iff_right (Ne.symm nonzero)]

theorem overlay_length (fits : message.length ≤ buffer.length) :
    (overlay message buffer).length = buffer.length := by
  rw [overlay, List.length_append, List.length_drop]
  omega

end Buffers

end NetworkServices
