import NetworkServices.Foundation.Memory
import NetworkServices.Foundation.OnesComplement

/-! The packet rewrite of the Netfilter queue program: the two routines of
`libqueue.c` and `callback` of `queuemod.c`. Offsets are counted from the
`packet` pointer, and the host is little-endian. -/

set_option autoImplicit false

namespace NetworkServices.Netfilter

open OnesComplement

/-- The two summing statements of `internet_checksum`: the `while (count > 1)`
loop over little-endian words, then the odd last byte. The C accumulator is an
`int`; `accumulate_int_range` bounds it for every count a packet can have. -/
def accumulate : Memory UInt8 → Nat → Nat → Nat → Nat × Memory UInt8
  | memory, addr, count + 2, sum =>
      let low := memory.read addr
      let high := low.2.read (addr + 1)
      accumulate high.2 (addr + 2) count (sum + (low.1.toNat + 256 * high.1.toNat))
  | memory, addr, 1, sum =>
      let last := memory.read addr
      (sum + last.1.toNat, last.2)
  | memory, _, 0, sum => (sum, memory)

/-- `internet_checksum(addr, count)`. Neither loop runs on a negative `count`,
and the complement is cut to the sixteen bits of the result type. -/
def internetChecksum (memory : Memory UInt8) (addr : Nat) (count : Int) :
    UInt16 × Memory UInt8 :=
  let summed := accumulate memory addr count.toNat 0
  (~~~ UInt16.ofNat (foldCarries 16 summed.1), summed.2)

/-- `while (head < tail)` of `swap_bytes`. -/
def swapLoop (memory : Memory UInt8) (head tail : Nat) : Memory UInt8 :=
  if head < tail then
    let tmp := memory.read head
    let last := tmp.2.read tail
    swapLoop ((last.2.write head last.1).write tail tmp.1) (head + 1) (tail - 1)
  else memory
termination_by tail - head

/-- `swap_bytes(data, data_length)`. The index of `tail` is computed in
`unsigned int` before it is added to the pointer. -/
def swapBytes (memory : Memory UInt8) (data : Nat) (dataLength : UInt32) : Memory UInt8 :=
  swapLoop memory data (data + (dataLength - 1).toNat)

/-- An `unsigned short` assignment on a little-endian host. -/
def storeShort (memory : Memory UInt8) (offset : Nat) (value : UInt16) : Memory UInt8 :=
  (memory.write offset value.toUInt8).write (offset + 1) (value >>> 8).toUInt8

/-- `sizeof(struct iphdr)`, which has no room for IP options. -/
def ipHeaderSize : UInt64 := 20

def icmpHeaderSize : UInt64 := 8

def checksumOffset : Nat := 2

def nfAccept : UInt32 := 1

/-- The arguments of `nfq_set_verdict`; the packet is the first `dataLength`
bytes of `memory`. -/
structure Verdict where
  id : UInt32
  verdict : UInt32
  dataLength : UInt32
  memory : Memory UInt8

/-- `callback`, from the value `nfq_get_payload` returned. The id is the one
`print_packet` read from the packet's meta-data. -/
def callback (id : UInt32) (payloadLength : Int) (memory : Memory UInt8) : Verdict :=
  let packetSize := UInt64.ofInt payloadLength
  let packetIcmpHeader := ipHeaderSize.toNat
  let packetBody := (icmpHeaderSize + ipHeaderSize).toNat
  let packetBodySize := packetSize - (icmpHeaderSize + ipHeaderSize)
  let swapped := swapBytes memory packetBody packetBodySize.toUInt32
  let zeroed := storeShort swapped (packetIcmpHeader + checksumOffset) 0
  let summed := internetChecksum zeroed 0 packetSize.toUInt32.toInt32.toInt
  { id
    verdict := nfAccept
    dataLength := packetSize.toUInt32
    memory := storeShort summed.2 (packetIcmpHeader + checksumOffset) summed.1 }

end NetworkServices.Netfilter
