import NetworkServices.Foundation.Buffer
import NetworkServices.Foundation.Interaction
import NetworkServices.RawSockets.Headers

/-! The two processes of `ping.cpp`: the one that sends four echo requests, and the one that shows
what the socket receives. -/

set_option autoImplicit false

namespace NetworkServices.RawSockets

/-- `struct icmphdr` with the member `echo` of its union. -/
structure Icmphdr where
  type : UInt8
  code : UInt8
  checksum : UInt16
  id : UInt16
  sequence : UInt16

def Icmphdr.bytes (order : ByteOrder) (header : Icmphdr) : List UInt8 :=
  [header.type, header.code] ++ (order.bytes header.checksum ++
    (order.bytes header.id ++ order.bytes header.sequence))

@[simp] theorem Icmphdr.bytes_length (order : ByteOrder) (header : Icmphdr) :
    (header.bytes order).length = 8 := by
  simp [Icmphdr.bytes]

namespace Ping

def dataSize : Nat := 32

/-- `datagram` of the sender: the header that lies over its first bytes, and the data. -/
structure Datagram where
  icmpHeader : Icmphdr
  data : Buffer dataSize

def Datagram.bytes (order : ByteOrder) (datagram : Datagram) : List UInt8 :=
  datagram.icmpHeader.bytes order ++ datagram.data.bytes

/-- What `uniform_int_distribution<int>(65,90)` draws. -/
abbrev Draw := { value : Nat // 65 ≤ value ∧ value ≤ 90 }

/-- The loop over `j`, and the byte behind the letters. Its offset is the size of the pointer
`icmp_header`, which is also that of the header. -/
def letters (draws : Nat → Draw) : List UInt8 :=
  (List.range (dataSize - 1)).map (fun j => UInt8.ofNat (draws j).val) ++ [0]

theorem letters_length (draws : Nat → Draw) : (letters draws).length = dataSize := by
  simp [letters, dataSize]

/-- `datagram` behind the statements in front of `sendto`. -/
def fill (order : ByteOrder) (pid : Int32) (draws : Nat → Draw) (i : Nat) (datagram : Datagram) :
    Option Datagram := do
  let icmpHeader := { datagram.icmpHeader with
    type := 8
    code := 0
    id := order.htons pid.toUInt32.toUInt16
    sequence := order.htons (UInt16.ofNat i)
    checksum := 0 }
  let datagram : Datagram := { icmpHeader, data := ⟨letters draws, letters_length draws⟩ }
  let checksum ← internetChecksum order (datagram.bytes order)
  return { datagram with icmpHeader := { icmpHeader with checksum } }

/-- The loop over `i`, with the passes that are left: the packets it sends, and how the process
exits. -/
def sendLoop (order : ByteOrder) (pid : Int32) (draws : Nat → Nat → Draw) (sendto : Nat → Bool) :
    Nat → Nat → Datagram → Option (List (List UInt8) × ExitStatus)
  | 0, _, _ => some ([], .success)
  | passes + 1, i, datagram => do
      let datagram ← fill order pid (draws i) i datagram
      if sendto i then
        let (packets, status) ← sendLoop order pid draws sendto passes (i + 1) datagram
        return (datagram.bytes order :: packets, status)
      else return ([], .failure)

/-- `mainProcess`, which runs in the child. -/
def mainProcess (order : ByteOrder) (pid : Int32) (draws : Nat → Nat → Draw)
    (sendto : Nat → Bool) (datagram : Datagram) : Option (List (List UInt8) × ExitStatus) :=
  sendLoop order pid draws sendto 4 1 datagram

/-- The values that one pass of the receiver prints. -/
structure Shown where
  ipSrc : InAddr
  ipTtl : UInt8
  ipHl : UInt8
  ipDst : InAddr
  type : UInt8
  code : UInt8
  id : UInt16
  sequence : UInt16
  deriving DecidableEq

/-- The address at an offset. -/
def address (bytes : List UInt8) (offset : Nat) : InAddr :=
  #v[bytes.getD offset 0, bytes.getD (offset + 1) 0, bytes.getD (offset + 2) 0,
    bytes.getD (offset + 3) 0]

/-- The word at an offset, in the order of the host. -/
def word (order : ByteOrder) (bytes : List UInt8) (offset : Nat) : UInt16 :=
  order.load (bytes.getD offset 0) (bytes.getD (offset + 1) 0)

/-- What is read through `ipheader` and through `icmp_header`, which points behind a header
without options. -/
def shown (order : ByteOrder) (datagram : List UInt8) : Shown where
  ipSrc := address datagram 12
  ipTtl := datagram.getD 8 0
  ipHl := datagram.getD 0 0 &&& 15
  ipDst := address datagram 16
  type := datagram.getD 20 0
  code := datagram.getD 21 0
  id := word order datagram 24
  sequence := word order datagram 26

/-- `recvfrom`, whose result nobody looks at. -/
def recvfrom (datagram : Buffer 40) : Option (List UInt8) → Buffer 40
  | some packet => datagram.receive packet
  | none => datagram

/-- The loop of `childProcess`, which runs in the parent, with the passes that are left. -/
def showLoop (order : ByteOrder) : Nat → Buffer 40 → List (Option (List UInt8)) → List Shown
  | passes + 1, datagram, result :: results =>
      let datagram := recvfrom datagram result
      shown order datagram.bytes :: showLoop order passes datagram results
  | _, _, _ => []

def childProcess (order : ByteOrder) (datagram : Buffer 40)
    (results : List (Option (List UInt8))) : List Shown :=
  showLoop order 4 datagram results

end Ping

end NetworkServices.RawSockets
