import NetworkServices.Foundation.Buffer
import NetworkServices.Foundation.DescriptorTable
import NetworkServices.Foundation.Numerals
import NetworkServices.Foundation.StreamChannel
import Mathlib.Algebra.Group.Int.Defs
import Mathlib.Logic.Function.Basic

/-! The service that tells the date and the time: the loops of `server2.c` and `client2.c`, and
any number of clients with one server. The date travels on the first stream of an association and
the time on the second, and the two may overtake each other. -/

set_option autoImplicit false

namespace NetworkServices.Sctp.DateService

def BUFF_SIZE : Nat := 256

/-- `initmsg.sinit_num_ostreams`, the same on both sides. -/
def sinit_num_ostreams : Nat := 3

/-- `initmsg.sinit_max_instreams` of the client. -/
def sinit_max_instreams : Nat := 3

/-- The streams from the server to a client. -/
def outgoing : Nat := min sinit_num_ostreams sinit_max_instreams

/-- What `localtime` stores. The two members that the server adds to leave room for it. -/
@[ext]
structure Tm where
  tm_mday : Int32
  tm_mon : Int32
  tm_year : Int32
  tm_hour : Int32
  tm_min : Int32
  tm_sec : Int32
  mon_fits : tm_mon.toInt + 1 < 2 ^ 31
  year_fits : tm_year.toInt + 1900 < 2 ^ 31

/-- `sprintf (buffer, "Aktualna data: %d.%d.%d", …)` -/
def dataText (tm : Tm) : CString :=
  ascii "Aktualna data: " ++ signedDecimal tm.tm_mday ++ ascii "." ++
    signedDecimal (tm.tm_mon + 1) ++ ascii "." ++ signedDecimal (tm.tm_year + 1900)

/-- `sprintf (buffer, "Aktualny czas: %d:%d:%d", …)` -/
def czasText (tm : Tm) : CString :=
  ascii "Aktualny czas: " ++ signedDecimal tm.tm_hour ++ ascii ":" ++
    signedDecimal tm.tm_min ++ ascii ":" ++ signedDecimal tm.tm_sec

/-- What `getsockopt` has left in `s_status`. Its result is not looked at. -/
structure Status where
  sstat_assoc_id : Int32
  sstat_state : Int32
  sstat_instrms : UInt16
  sstat_outstrms : UInt16

structure Message where
  sinfo_stream : UInt16
  payload : List UInt8

/-- The `strlen(buffer)` bytes of the zeroed buffer into which a text was printed. -/
def sendmsg (stream : UInt16) (text : CString) (beyond : List UInt8) : Message where
  sinfo_stream := stream
  payload := ((Buffer.zeroed BUFF_SIZE).receive (text ++ [0])).text beyond

section Client

inductive Control where
  | connecting
  | receiving
  | closed
  deriving DecidableEq

structure Client where
  control : Control
  i : Nat
  /-- What was printed behind `connect`. -/
  s_status : Option Status
  /-- The numbers of the streams and the texts. -/
  printed : List (UInt16 × CString)

/-- The end of a pass: the loop runs while `i < initmsg.sinit_num_ostreams - 1`. -/
def Client.pass (client : Client) : Client :=
  { client with
    control := if client.i + 1 < sinit_num_ostreams - 1 then .receiving else .closed
    i := client.i + 1 }

/-- `buffer[retval] = 0`, and the line that is printed, when `retval` is positive. -/
def Client.recvmsg (client : Client) (message : Message) (beyond : List UInt8) : Client :=
  let retval := min message.payload.length BUFF_SIZE
  let buffer := (Buffer.zeroed BUFF_SIZE).receive message.payload
  if 0 < retval then
    { client.pass with
      printed := client.printed ++
        [(message.sinfo_stream, (buffer.storeAt retval [0]).text beyond)] }
  else client.pass

end Client

section World

variable {ι : Type}

inductive OpenFile (ι : Type) where
  | other
  | association (client : ι)
  deriving DecidableEq

/-- In front of `accept`, of the first and of the second `sctp_sendmsg`. -/
inductive Server where
  | accepting
  | sendingData (connfd : Nat) (tm : Tm)
  | sendingCzas (connfd : Nat) (tm : Tm)
  | exited

/-- An association with the descriptor that `accept` returned and the time read behind it. -/
structure Accepted (ι : Type) where
  client : ι
  connfd : Nat
  tm : Tm

structure World (ι : Type) where
  client : ι → Client
  server : Server
  table : DescriptorTable (OpenFile ι)
  /-- The associations that wait for `accept`. -/
  queue : List ι
  accepted : List (Accepted ι)
  transit : ι → List Message
  /-- The associations that broke down. -/
  lost : ι → Bool

def World.start (table : DescriptorTable (OpenFile ι)) : World ι where
  client := fun _ => ⟨.connecting, 0, none, []⟩
  server := .accepting
  table := table
  queue := []
  accepted := []
  transit := fun _ => []
  lost := fun _ => false

variable [DecidableEq ι]

/-- One step of one process or of the network. An association delivers what is sent on it, also
behind the exit of the server, and keeps the order of each stream, unless it breaks down. `accept`
fails without a free descriptor and for an association that is gone. -/
inductive Step (limit : Nat) (world : World ι) : World ι → Prop where
  | connect {c : ι} (s_status : Status) (connecting : (world.client c).control = .connecting)
      (up : world.server ≠ .exited) :
      Step limit world { world with
        client := Function.update world.client c
          { world.client c with control := .receiving, s_status := some s_status }
        queue := world.queue ++ [c] }
  | connectFailed {c : ι} (connecting : (world.client c).control = .connecting) :
      Step limit world { world with
        client := Function.update world.client c { world.client c with control := .closed } }
  | accept {c : ι} {rest : List ι} (tm : Tm) (accepting : world.server = .accepting)
      (first : world.queue = c :: rest) (free : world.table.lowestFree < limit) :
      Step limit world { world with
        server := .sendingData world.table.lowestFree tm
        table := (world.table.allocate (.association c)).2
        queue := rest
        accepted := world.accepted ++ [⟨c, world.table.lowestFree, tm⟩] }
  | acceptFailed (accepting : world.server = .accepting)
      (cause : limit ≤ world.table.lowestFree ∨ ∃ c ∈ world.queue, world.lost c = true) :
      Step limit world { world with server := .exited }
  | sendData {c : ι} {connfd : Nat} {tm : Tm} (beyond : List UInt8)
      (sending : world.server = .sendingData connfd tm)
      (connected : world.table.lookup connfd = some (.association c))
      (up : world.lost c = false) (valid : (0 : UInt16).toNat < outgoing) :
      Step limit world { world with
        server := .sendingCzas connfd tm
        transit := Function.update world.transit c
          (world.transit c ++ [sendmsg 0 (dataText tm) beyond]) }
  | sendCzas {c : ι} {connfd : Nat} {tm : Tm} (beyond : List UInt8)
      (sending : world.server = .sendingCzas connfd tm)
      (connected : world.table.lookup connfd = some (.association c))
      (up : world.lost c = false) (valid : (1 : UInt16).toNat < outgoing) :
      Step limit world { world with
        server := .accepting
        transit := Function.update world.transit c
          (world.transit c ++ [sendmsg 1 (czasText tm) beyond]) }
  | sendFailed {c : ι} {connfd : Nat} {tm : Tm}
      (sending : world.server = .sendingData connfd tm ∨ world.server = .sendingCzas connfd tm)
      (connected : world.table.lookup connfd = some (.association c))
      (down : world.lost c = true) :
      Step limit world { world with server := .exited }
  | receive {c : ι} {message : Message} {rest : List Message} (beyond : List UInt8)
      (receiving : (world.client c).control = .receiving)
      (takes : Takes Message.sinfo_stream (world.transit c) message rest) :
      Step limit world { world with
        client := Function.update world.client c ((world.client c).recvmsg message beyond)
        transit := Function.update world.transit c rest }
  | receiveFailed {c : ι} (receiving : (world.client c).control = .receiving)
      (ended : world.lost c = true ∨ world.server = .exited ∧ world.transit c = []) :
      Step limit world { world with
        client := Function.update world.client c (world.client c).pass }
  | lose {c : ι} (up : world.lost c = false) :
      Step limit world { world with
        transit := Function.update world.transit c []
        lost := Function.update world.lost c true }

end World

end NetworkServices.Sctp.DateService
