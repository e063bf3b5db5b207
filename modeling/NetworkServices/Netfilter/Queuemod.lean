import NetworkServices.Foundation.CString
import NetworkServices.Foundation.Interaction
import NetworkServices.Netfilter.Queue

/-! The program of `queuemod.c` with the calls it makes: the loop that receives the packets of
the queue, and what is printed of each before its verdict. -/

set_option autoImplicit false

namespace NetworkServices.Netfilter.Queuemod

/-- `struct nfqnl_msg_packet_hdr`, in host byte order. -/
structure PacketHdr where
  packet_id : UInt32
  hw_protocol : UInt16
  hook : UInt8

/-- `struct nfqnl_msg_packet_hw` -/
structure PacketHw where
  hw_addrlen : UInt16
  hw_addr : Vector UInt8 8

/-- `struct nfq_data`, by what the functions of the library read from it. -/
structure NfqData where
  packet_hdr : Option PacketHdr
  packet_hw : Option PacketHw
  indev : UInt32
  outdev : UInt32
  payload : Option (List UInt8)

/-- A message of the kernel, with its length as it is sent. -/
structure Message where
  nlmsg_len : Nat
  data : NfqData

inductive Stream where
  | stdout
  | stderr
  deriving DecidableEq

/-- `fault` stands for an access outside of the packet, from which the process does not return. -/
inductive Call where
  | nfq_open
  | nfq_unbind_pf
  | nfq_bind_pf
  | nfq_create_queue (num : UInt16)
  | nfq_set_mode (range : UInt32)
  | recv
  | if_indextoname (ifindex : UInt32)
  | nfq_set_verdict (id verdict data_len : UInt32) (buf : List UInt8)
  | fprintf (stream : Stream) (text : CString)
  | perror (text : CString)
  | sleep (seconds : Nat)
  | nfq_destroy_queue
  | nfq_close
  | fault

/-- What the calls return. `recv` fails, or returns a length and what is in the buffer, of which
the end may be missing. -/
abbrev Answer : Call → Type
  | .nfq_open | .nfq_create_queue _ => Bool
  | .nfq_unbind_pf | .nfq_bind_pf | .nfq_set_mode _ | .nfq_set_verdict _ _ _ _ => Int32
  | .recv => Option (Nat × Message)
  | .if_indextoname _ => Option CString
  | .fprintf _ _ | .perror _ | .sleep _ | .nfq_destroy_queue | .nfq_close => Unit
  | .fault => Empty

abbrev Process := Program Call Answer

def fprintf (stream : Stream) (text : CString) : Process Unit :=
  .invoke (Call.fprintf stream text)

def fail {α : Type} (text : CString) : Process α := do
  fprintf .stderr text
  .exit .failure

/-- The `switch` over `ph->hook`. -/
def hookName (hook : UInt8) : CString :=
  if hook = 0 then ascii "PREROUTING"
  else if hook = 1 then ascii "INPUT"
  else if hook = 2 then ascii "FORWARD"
  else if hook = 3 then ascii "OUTPUT"
  else if hook = 4 then ascii "POSTROUTING"
  else ascii "UNKNOWN"

/-- `"0x%04x"` -/
def etherType (hw_protocol : UInt16) : CString :=
  ascii "0x" ++ hexadecimal (hw_protocol >>> 8).toUInt8 ++ hexadecimal hw_protocol.toUInt8

/-- The elements of `hw_addr` that are printed, the last one apart. -/
def hwIndices (hw_addrlen : UInt16) : List Int :=
  (List.range (hw_addrlen.toNat - 1)).map Int.ofNat ++ [(hw_addrlen.toNat : Int) - 1]

def sourceAddress (hw : PacketHw) : CString :=
  (ascii ":").intercalate
    ((hwIndices hw.hw_addrlen).map fun i => hexadecimal (hw.hw_addr.toList.getD i.toNat 0))

/-- An interface is printed when its index is known. -/
def printDevice (label : CString) (ifi : UInt32) : Process Unit :=
  if ifi ≠ 0 then
    .call (.if_indextoname ifi) fun
      | none => do
          .invoke (Call.perror (ascii "if_indextoname()"))
          .exit .failure
      | some ifname => fprintf .stdout (label ++ ascii ": '" ++ ifname ++ ascii "', ")
  else pure ()

def printHeader : Option PacketHdr → Process UInt32
  | none => pure 0
  | some ph => do
      fprintf .stdout (ascii "ID: '" ++ decimal ph.packet_id.toNat ++ ascii "', EtherType: '" ++
        etherType ph.hw_protocol ++ ascii "', ")
      fprintf .stdout (ascii "Netfilter Hook: ")
      fprintf .stdout (ascii "'" ++ hookName ph.hook ++ ascii "',\n")
      return ph.packet_id

def printAddress : Option PacketHw → Process Unit
  | none => pure ()
  | some hwph => fprintf .stdout (ascii "Source Address: '" ++ sourceAddress hwph ++ ascii "', ")

def printLength : Option (List UInt8) → Process Unit
  | none => pure ()
  | some data =>
      fprintf .stdout (ascii "\nPayload Length: '" ++ decimal data.length ++ ascii "'\n")

def print_packet (tb : NfqData) : Process UInt32 := do
  let id ← printHeader tb.packet_hdr
  printAddress tb.packet_hw
  printDevice (ascii "Input Dev") tb.indev
  printDevice (ascii "Output Dev") tb.outdev
  printLength tb.payload
  return id

/-- The result of `nfq_get_payload`. -/
def payloadLength (nfa : NfqData) : Int :=
  match nfa.payload with
  | none => -1
  | some data => data.length

/-- The memory from the payload on, with what lies behind it. -/
def packetMemory (beyond : Nat → UInt8) (nfa : NfqData) : Memory UInt8 where
  cell := fun i => (nfa.payload.getD []).getD i (beyond i)
  touched := []

/-- The arguments of the verdict, for the id that was read from the header. -/
def verdict (beyond : Nat → UInt8) (id : UInt32) (nfa : NfqData) : Verdict :=
  Netfilter.callback id (payloadLength nfa) (packetMemory beyond nfa)

/-- The bytes that are sent back to the kernel. -/
def sentBack (verdict : Verdict) : List UInt8 :=
  slice verdict.memory.cell 0 verdict.dataLength.toNat

/-- The body of the packet is empty, and its length as an `unsigned int` runs out of the packet. -/
def runsOut (nfa : NfqData) : Bool :=
  decide (payloadLength nfa < 29)

def callback (beyond : Nat → UInt8) (nfa : NfqData) : Process Int32 := do
  let id ← print_packet nfa
  fprintf .stdout (ascii "Leaving callback.\n\n")
  if runsOut nfa then do
    let returned ← .invoke Call.fault
    Empty.elim returned
  else
    let verdict := verdict beyond id nfa
    .invoke (Call.nfq_set_verdict verdict.id verdict.verdict verdict.dataLength
      (sentBack verdict))

/-- `nfq_handle_packet` of the library, with the callback it was given. -/
abbrev Handler := (NfqData → Process Int32) → Nat → Message → Process Int32

/-- What the library documents: it calls the callback for the packet of a message that was received
as a whole, and refuses one that is longer than what was received. -/
structure HandlesPackets (nfq_handle_packet : Handler) : Prop where
  whole : ∀ callback rv message, message.nlmsg_len ≤ rv → ∃ result : Int32 → Int32,
    nfq_handle_packet callback rv message = do
      let err ← callback message.data
      return result err
  cut : ∀ callback rv message, rv < message.nlmsg_len → ∃ result : Int32,
    nfq_handle_packet callback rv message = pure result

/-- `sizeof(buf)` -/
def BUF_SIZE : Nat := 4096

/-- One pass of the loop over the packets. -/
def receive (nfq_handle_packet : Handler) (beyond : Nat → UInt8) (_ : Unit) :
    Process (Unit ⊕ Unit) :=
  .call .recv fun
    | none => pure (.inr ())
    | some (rv, message) => do
        fprintf .stdout (ascii "Packet received. Entering callback.\n")
        let _ ← nfq_handle_packet (callback beyond) rv message
        .invoke (Call.sleep 1)
        return .inl ()

def main (nfq_handle_packet : Handler) (passes : Nat) (beyond : Nat → UInt8) : Process Unit := do
  let h ← .invoke Call.nfq_open
  if !h then fail (ascii "nfq_open() failed!\n")
  else
    let rv ← .invoke Call.nfq_unbind_pf
    if rv < 0 then fail (ascii "nfq_unbind_pf() failed!\n")
    else
      let rv ← .invoke Call.nfq_bind_pf
      if rv < 0 then fail (ascii "nfq_bind_pf() failed!\n")
      else
        let qh ← .invoke (Call.nfq_create_queue 5)
        if !qh then fail (ascii "nfq_create_queue() failed!\n")
        else
          let rv ← .invoke (Call.nfq_set_mode 0xffff)
          if rv < 0 then fail (ascii "nfq_set_mode() failed!\n")
          else
            fprintf .stdout (ascii "Using queue 5 and mode NFQNL_COPY_PACKET.\n" ++
              ascii "Waiting for packets...\n")
            Program.loop (receive nfq_handle_packet beyond) passes ()
            .invoke Call.nfq_destroy_queue
            .invoke Call.nfq_close
            .exit .success

end NetworkServices.Netfilter.Queuemod
