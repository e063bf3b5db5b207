import NetworkServices.Foundation.CString
import NetworkServices.RawSockets.Headers

/-! The sender of `tcp.c`: its three structures and what it passes to `sendto`. -/

set_option autoImplicit false

namespace NetworkServices.RawSockets

namespace Tcp

/-- `struct phdr`. -/
structure Phdr where
  ipSrc : InAddr := #v[0, 0, 0, 0]
  ipDst : InAddr := #v[0, 0, 0, 0]
  unused : UInt8 := 0
  protocol : UInt8 := 0
  length : UInt16 := 0
  tcp : Tcphdr := {}

def Phdr.bytes (order : ByteOrder) (header : Phdr) : List UInt8 :=
  header.ipSrc.toList ++ header.ipDst.toList ++ [header.unused, header.protocol] ++
    order.bytes header.length ++ header.tcp.bytes order

/-- `ip_create()`, where `destination` is the `sin_addr` of `rp->ai_addr`. -/
def ipCreate (order : ByteOrder) (destination : InAddr) (header : Ip) : Option Ip := do
  let header := { header with
    ipHl := 5
    ipV := 4
    ipTos := 0
    ipLen := 20 + 20
    ipId := 0
    ipOff := 0
    ipTtl := 255
    ipP := 6
    ipSrc := #v[192, 168, 2, 2]
    ipDst := destination }
  let sum ← internetChecksum order (header.bytes order)
  return { header with ipSum := sum }

def tcpCreate (order : ByteOrder) (port : Int32) (header : Tcphdr) : Tcphdr :=
  { header with
    source := order.htons 6666
    dest := order.htons port.toUInt32.toUInt16
    seq := 0
    ackSeq := 0
    doff := 5
    fin := 0
    syn := 1
    rst := 0
    psh := 0
    ack := 0
    urg := 0
    window := order.htons 5840
    check := 0
    urgPtr := 0 }

def pseudoCreate (order : ByteOrder) (ipHeader : Ip) (header : Phdr) : Phdr :=
  { header with
    ipSrc := ipHeader.ipSrc
    ipDst := ipHeader.ipDst
    unused := 0
    protocol := 6
    length := order.htons 20 }

/-- The bytes that each `sendto` of `main` takes of `datagram`. -/
def sent (order : ByteOrder) (destination : InAddr) (port : CString) : Option (List UInt8) := do
  let ipHeader ← ipCreate order destination {}
  let tcpHeader := tcpCreate order (atoi port) {}
  let pseudoHeader := { pseudoCreate order ipHeader {} with tcp := tcpHeader }
  let check ← internetChecksum order (pseudoHeader.bytes order)
  let datagram := ipHeader.bytes order ++ { tcpHeader with check }.bytes order ++
    List.replicate 32 0
  return datagram.take ipHeader.ipLen.toNat

end Tcp

end NetworkServices.RawSockets
