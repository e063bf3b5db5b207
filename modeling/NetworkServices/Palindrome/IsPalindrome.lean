import NetworkServices.Foundation.CString
import Mathlib.Logic.Function.Basic

/-! The function `is_palindrome` of `libpalindrome.c`. The block it allocates is not
initialised, so its bytes are a parameter at every offset, before and behind the
block as well. -/

set_option autoImplicit false

namespace NetworkServices.Palindrome

/-- The bytes around the pointer that `malloc` returns. -/
abbrev Block := Int → UInt8

/-- The loop that copies the digits behind the `j` already copied. A letter ends
it; other characters are skipped. -/
def copyLoop : Block → Nat → List UInt8 → Option (Block × Nat)
  | tmp, j, [] => some (tmp, j)
  | tmp, j, char :: rest =>
      if isdigit char then copyLoop (Function.update tmp j char) (j + 1) rest
      else if isalpha char then none
      else copyLoop tmp j rest

/-- The loop over the leading zeros: the index it stops at. -/
def skipZeros (tmp : Block) (i j : Nat) : Nat :=
  if i < j then
    if tmp i ≠ 48 then i else skipZeros tmp (i + 1) j
  else i
termination_by j - i

/-- The comparing `do … while (head <= tail)`, with the offsets it reads. -/
def compareLoop (tmp : Block) (head tail : Int) : Bool × List Int :=
  if tmp head ≠ tmp tail then (false, [head, tail])
  else if head + 1 ≤ tail - 1 then
    let inner := compareLoop tmp (head + 1) (tail - 1)
    (inner.1, head :: tail :: inner.2)
  else (true, [head, tail])
termination_by (tail + 1 - head).toNat

/-- `is_palindrome` on the bytes `buff[0]` to `buff[buff_len - 1]`. Where `malloc`
fails it ends the process. -/
def isPalindrome (malloc : Option Block) (buff : List UInt8) : Option Int32 :=
  match malloc with
  | none => none
  | some tmp =>
      match copyLoop tmp 0 buff with
      | none => some (-1)
      | some (tmp, j) =>
          if (compareLoop tmp (skipZeros tmp 0 j) (j - 1)).1 then some 1 else some 0

end NetworkServices.Palindrome
