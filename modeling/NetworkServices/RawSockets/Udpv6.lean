import NetworkServices.Foundation.CString
import NetworkServices.RawSockets.Headers

/-! The sender of `udpv6.c`: the header that it fills in, the structure behind it that enters the
checksum only, and the cast through which the latter gets its address. -/

set_option autoImplicit false

namespace NetworkServices.RawSockets.Udpv6

/-- `((struct sockaddr_in*)rp->ai_addr)->sin_addr`, the four bytes at offset 4. -/
def sinAddr (order : ByteOrder) (address : SockaddrIn6) : InAddr :=
  ⟨(((address.bytes order).drop 4).take 4).toArray, by simp⟩

/-- `struct phdr`. -/
structure Phdr where
  ipDst : InAddr := #v[0, 0, 0, 0]
  unused : UInt8 := 0
  protocol : UInt8 := 0
  length : UInt16 := 0

def Phdr.bytes (order : ByteOrder) (header : Phdr) : List UInt8 :=
  header.ipDst.toList ++ [header.unused, header.protocol] ++ order.bytes header.length

/-- `datagram`, which is zero at the start. -/
structure Datagram where
  udpHeader : Udphdr := {}
  pseudoHeader : Phdr := {}

def Datagram.bytes (order : ByteOrder) (datagram : Datagram) : List UInt8 :=
  datagram.udpHeader.bytes order ++ datagram.pseudoHeader.bytes order

/-- `datagram` when its checksum is computed. -/
def filled (order : ByteOrder) (address : SockaddrIn6) (port : CString) : Datagram :=
  let udpHeader : Udphdr :=
    { uhDport := order.htons (atoi port).toUInt32.toUInt16
      uhUlen := order.htons 8
      uhSum := 0 }
  { udpHeader
    pseudoHeader :=
      { ipDst := sinAddr order address
        unused := 0
        protocol := 17
        length := udpHeader.uhUlen } }

def store (datagram : Datagram) (checksum : UInt16) : Datagram :=
  if checksum = 0 then
    { datagram with udpHeader := { datagram.udpHeader with uhSum := 0xffff } }
  else { datagram with udpHeader := { datagram.udpHeader with uhSum := checksum } }

/-- The bytes that each `sendto` of `sending_empty_datagram()` takes of `datagram`. -/
def sent (order : ByteOrder) (address : SockaddrIn6) (port : CString) : Option (List UInt8) := do
  let datagram := filled order address port
  let checksum ← internetChecksum order (datagram.bytes order)
  return ((store datagram checksum).bytes order).take 8

end NetworkServices.RawSockets.Udpv6
