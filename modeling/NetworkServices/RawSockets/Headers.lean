import NetworkServices.Checksum.InternetChecksumProperties
import NetworkServices.Foundation.TransportChecksum

/-! The structures of the system's headers that the senders fill in memory that starts as zero,
the bytes in which they lie there, and the checksum that is computed of them. -/

set_option autoImplicit false

namespace NetworkServices.RawSockets

/-- The four bytes of an `s_addr`, as they stand in memory and on the wire. -/
abbrev InAddr := Vector UInt8 4

abbrev In6Addr := Vector UInt8 16

/-- `struct ip`. -/
structure Ip where
  ipHl : BitVec 4 := 0
  ipV : BitVec 4 := 0
  ipTos : UInt8 := 0
  ipLen : UInt16 := 0
  ipId : UInt16 := 0
  ipOff : UInt16 := 0
  ipTtl : UInt8 := 0
  ipP : UInt8 := 0
  ipSum : UInt16 := 0
  ipSrc : InAddr := #v[0, 0, 0, 0]
  ipDst : InAddr := #v[0, 0, 0, 0]

/-- What stands in front of `ip_sum`. The two bit-fields share a byte. -/
def Ip.front (order : ByteOrder) (header : Ip) : List UInt8 :=
  [.ofBitVec (header.ipV ++ header.ipHl), header.ipTos] ++ order.bytes header.ipLen ++
    order.bytes header.ipId ++ order.bytes header.ipOff ++ [header.ipTtl, header.ipP]

def Ip.bytes (order : ByteOrder) (header : Ip) : List UInt8 :=
  header.front order ++ (order.bytes header.ipSum ++
    (header.ipSrc.toList ++ header.ipDst.toList))

/-- `struct tcphdr`. -/
structure Tcphdr where
  source : UInt16 := 0
  dest : UInt16 := 0
  seq : UInt32 := 0
  ackSeq : UInt32 := 0
  res1 : BitVec 4 := 0
  doff : BitVec 4 := 0
  fin : BitVec 1 := 0
  syn : BitVec 1 := 0
  rst : BitVec 1 := 0
  psh : BitVec 1 := 0
  ack : BitVec 1 := 0
  urg : BitVec 1 := 0
  res2 : BitVec 2 := 0
  window : UInt16 := 0
  check : UInt16 := 0
  urgPtr : UInt16 := 0

def Tcphdr.flags (header : Tcphdr) : BitVec 8 :=
  header.res2 ++ header.urg ++ header.ack ++ header.psh ++ header.rst ++ header.syn ++ header.fin

/-- What stands in front of `check`. -/
def Tcphdr.front (order : ByteOrder) (header : Tcphdr) : List UInt8 :=
  order.bytes header.source ++ order.bytes header.dest ++ order.longBytes header.seq ++
    order.longBytes header.ackSeq ++
    [.ofBitVec (header.doff ++ header.res1), .ofBitVec header.flags] ++ order.bytes header.window

def Tcphdr.bytes (order : ByteOrder) (header : Tcphdr) : List UInt8 :=
  header.front order ++ (order.bytes header.check ++ order.bytes header.urgPtr)

/-- `struct udphdr`. -/
structure Udphdr where
  uhSport : UInt16 := 0
  uhDport : UInt16 := 0
  uhUlen : UInt16 := 0
  uhSum : UInt16 := 0

def Udphdr.front (order : ByteOrder) (header : Udphdr) : List UInt8 :=
  order.bytes header.uhSport ++ order.bytes header.uhDport ++ order.bytes header.uhUlen

def Udphdr.bytes (order : ByteOrder) (header : Udphdr) : List UInt8 :=
  header.front order ++ order.bytes header.uhSum

/-- `struct sockaddr_in6`. -/
structure SockaddrIn6 where
  sin6Family : UInt16
  sin6Port : UInt16
  sin6Flowinfo : Vector UInt8 4
  sin6Addr : In6Addr
  sin6ScopeId : UInt32

def SockaddrIn6.bytes (order : ByteOrder) (address : SockaddrIn6) : List UInt8 :=
  order.bytes address.sin6Family ++ order.bytes address.sin6Port ++
    address.sin6Flowinfo.toList ++ address.sin6Addr.toList ++ order.longBytes address.sin6ScopeId

theorem even_length_toList {size : Nat} (field : Vector UInt8 size) (whole : Even size) :
    Even field.toList.length := by
  rwa [Vector.length_toList]

section Sizes

variable (order : ByteOrder)

@[simp] theorem Ip.front_length (header : Ip) : (header.front order).length = 10 := by
  simp [Ip.front]

@[simp] theorem Ip.bytes_length (header : Ip) : (header.bytes order).length = 20 := by
  simp [Ip.bytes]

@[simp] theorem Tcphdr.front_length (header : Tcphdr) : (header.front order).length = 16 := by
  simp [Tcphdr.front]

@[simp] theorem Tcphdr.bytes_length (header : Tcphdr) : (header.bytes order).length = 20 := by
  simp [Tcphdr.bytes]

@[simp] theorem Udphdr.front_length (header : Udphdr) : (header.front order).length = 6 := by
  simp [Udphdr.front]

theorem Udphdr.front_even (header : Udphdr) : Even (header.front order).length := by
  rw [Udphdr.front_length]
  decide

@[simp] theorem Udphdr.bytes_length (header : Udphdr) : (header.bytes order).length = 8 := by
  simp [Udphdr.bytes]

@[simp] theorem SockaddrIn6.bytes_length (address : SockaddrIn6) :
    (address.bytes order).length = 28 := by
  simp [SockaddrIn6.bytes]

end Sizes

section Fields

variable (order : ByteOrder) (rest : List UInt8)

theorem Ip.bytes_ipSrc (header : Ip) :
    ((header.bytes order ++ rest).drop 12).take 4 = header.ipSrc.toList := by
  have front : (header.front order ++ order.bytes header.ipSum).length = 12 := by
    simp
  have split : header.bytes order ++ rest = (header.front order ++ order.bytes header.ipSum) ++
      (header.ipSrc.toList ++ (header.ipDst.toList ++ rest)) := by
    simp [Ip.bytes]
  rw [split, List.drop_left' front, List.take_left' header.ipSrc.length_toList]

theorem Ip.bytes_ipDst (header : Ip) :
    ((header.bytes order ++ rest).drop 16).take 4 = header.ipDst.toList := by
  have front : (header.front order ++ order.bytes header.ipSum ++ header.ipSrc.toList).length =
      16 := by
    simp
  have split : header.bytes order ++ rest = (header.front order ++ order.bytes header.ipSum ++
      header.ipSrc.toList) ++ (header.ipDst.toList ++ rest) := by
    simp [Ip.bytes]
  rw [split, List.drop_left' front, List.take_left' header.ipDst.length_toList]

theorem Tcphdr.bytes_dest (header : Tcphdr) {front : List UInt8} {offset : Nat}
    (behind : front.length = offset) :
    ((front ++ header.bytes order).drop (offset + 2)).take 2 = order.bytes header.dest := by
  rw [← List.drop_drop, List.drop_left' behind]
  simp [Tcphdr.bytes, Tcphdr.front, ByteOrder.bytes]

end Fields

/-!
## Their checksum
-/

open OnesComplement

/-- `internet_checksum(bytes, count)`, whose second loop makes three tests at most. -/
def internetChecksum (order : ByteOrder) (bytes : List UInt8) : Option UInt16 :=
  (Checksum.internetChecksum order bytes 3).getRight?.join

theorem internetChecksum_eq_some (order : ByteOrder) {bytes : List UInt8}
    (fits : bytes.length ≤ 65535) :
    internetChecksum order bytes = some (checksum (order.arrange bytes)) := by
  rw [internetChecksum, Checksum.internetChecksum_eq order fits, Sum.getRight?_inr, Option.join_some]

section Whole

variable {front rest : List UInt8} (fits : front.length + 2 + rest.length ≤ 65535)
  (aligned : Even front.length) (restAligned : Even rest.length)

include fits aligned restAligned

/-- What was summed with a field of zero verifies on every host once the sum stands there. -/
theorem internetChecksum_sealed {order : ByteOrder} {sum : UInt16}
    (computed : internetChecksum order (front ++ (order.bytes 0 ++ rest)) = some sum)
    (receiver : ByteOrder) :
    internetChecksum receiver (front ++ (order.bytes sum ++ rest)) = some 0 := by
  have length (word : UInt16) : (front ++ (order.bytes word ++ rest)).length =
      front.length + 2 + rest.length := by
    rw [List.length_append, List.length_append, ByteOrder.bytes_length, Nat.add_assoc]
  have whole : Even (front ++ (order.bytes sum ++ rest)).length := by
    rw [length]
    exact (aligned.add even_two).add restAligned
  rw [internetChecksum_eq_some order (by rwa [length]), Option.some.injEq] at computed
  have verified : checksum (order.arrange (front ++ (order.bytes sum ++ rest))) = 0 :=
    checksum_sealed order aligned computed.symm
  rw [ByteOrder.checksum_arrange_eq_zero_iff order whole] at verified
  rw [internetChecksum_eq_some receiver (by rwa [length]), Option.some.injEq,
    ByteOrder.checksum_arrange_eq_zero_iff receiver whole]
  exact verified

end Whole

end NetworkServices.RawSockets
