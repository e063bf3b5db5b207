import NetworkServices.Foundation.ByteOrder
import NetworkServices.Foundation.IntArithmetic
import NetworkServices.Foundation.Iteration

/-! `internet_checksum`, of which `libqueue.c` and both copies of `checksum.h` hold the same
text. The accumulator is the `int` of the code and the byte order of the host is a
parameter: the same loads and stores mean different words on different hosts. -/

set_option autoImplicit false

namespace NetworkServices.Checksum

open IntArithmetic

/-- `while (count > 1)` and `if (count > 0)`, over the `count` bytes at `addr`. The last of an
odd number of bytes is added through `unsigned char *`. -/
def sumWords (order : ByteOrder) : List UInt8 → Int32 → Option Int32
  | first :: second :: rest, sum =>
      (addInt sum (order.load first second).toUInt32.toInt32).bind (sumWords order rest)
  | [last], sum => addInt sum last.toUInt32.toInt32
  | [], sum => some sum

/-- A test of `while (sum >> 16)` with the round after it, or with the `return`. -/
def foldRound (sum : Int32) : Int32 ⊕ Option UInt16 :=
  if sum >>> 16 ≠ 0 then
    match addInt (sum &&& 0xffff) (sum >>> 16) with
    | some next => .inl next
    | none => .inr none
  else .inr (some (~~~ sum).toUInt32.toUInt16)

/-- `internet_checksum(addr, count)` after at most `tests` tests of its second loop; no result
is a run that overflowed. -/
def internetChecksum (order : ByteOrder) (bytes : List UInt8) (tests : Nat) :
    Int32 ⊕ Option UInt16 :=
  match sumWords order bytes 0 with
  | some sum => iterate foldRound tests sum
  | none => .inr none

/-- An assignment to the `unsigned short` at offset `k`. -/
def storeShort (order : ByteOrder) (bytes : List UInt8) (k : Nat) (value : UInt16) : List UInt8 :=
  (bytes.set k (order.store value).1).set (k + 1) (order.store value).2

end NetworkServices.Checksum
