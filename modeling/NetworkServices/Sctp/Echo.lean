import NetworkServices.Foundation.Buffer
import NetworkServices.Foundation.StreamChannel
import NetworkServices.Foundation.TextInput
import Mathlib.Logic.Function.Basic

/-! The SCTP echo service: the loops of `server3.c` and `client3.c`, and any number of
clients with one server between which the messages of their associations travel. -/

set_option autoImplicit false

namespace NetworkServices.Sctp

/-- `initmsg.sinit_num_ostreams`, the same on both sides. -/
def sinit_num_ostreams : Nat := 5

inductive Wybor where
  | zero
  | one
  deriving DecidableEq

/-- A message of an association. Whose it is, or whose it answers, and which one, is
written down for the observer; no program reads it. -/
structure Message (ι : Type) where
  stream : UInt16
  payload : List UInt8
  sender : ι
  number : Nat

abbrev Content (ι : Type) := ι × Nat × List UInt8

def Message.content {ι : Type} (message : Message ι) : Content ι :=
  (message.sender, message.number, message.payload)

section Server

variable {ι : Type}

structure Received (ι : Type) where
  buffer : Buffer 256
  cliaddr : ι
  sinfo_stream : UInt16
  sender : ι
  number : Nat

def recvmsg (cliaddr : ι) (message : Message ι) : Received ι where
  buffer := (Buffer.zeroed 256).receive message.payload
  cliaddr
  sinfo_stream := message.stream
  sender := message.sender
  number := message.number

/-- The stream of the reply. The addition is one of `int` and cannot overflow. -/
def replyStream (wybor : Wybor) (stream : UInt16) : UInt16 :=
  match wybor with
  | .zero => stream
  | .one => if stream.toNat + 1 < sinit_num_ostreams then stream + 1 else 0

/-- The reply: `strlen(buffer)` bytes, to the address of the message. -/
def Received.reply (received : Received ι) (wybor : Wybor) (beyond : List UInt8) : Message ι where
  stream := replyStream wybor received.sinfo_stream
  payload := received.buffer.text beyond
  sender := received.sender
  number := received.number

inductive Server (ι : Type) where
  | receiving
  | replying (received : Received ι)

end Server

section Client

variable {ι : Type}

/-- The variables of the client that no statement initialises. -/
structure Locals where
  i : Int32
  stream : Int32
  deriving DecidableEq

/-- The stream argument of `sctp_sendmsg`, a `uint16_t`. -/
def Locals.messageStream (locals : Locals) : UInt16 :=
  if locals.i = 0 then 0 else UInt16.ofInt locals.stream.toInt

def Locals.sent (locals : Locals) : Locals :=
  if locals.i = 0 then { locals with i := 1 } else locals

def Locals.received (locals : Locals) (sinfo_stream : UInt16) : Locals :=
  { locals with stream := Int32.ofNat sinfo_stream.toNat }

inductive Control where
  | reading
  | waiting
  | closed
  deriving DecidableEq

structure Client (ι : Type) where
  stdin : List UInt8
  locals : Locals
  control : Control
  sent : List (Content ι)
  received : List (Content ι)

def Client.start (stdin : List UInt8) (locals : Locals) : Client ι :=
  ⟨stdin, locals, .reading, [], []⟩

/-- The loop body up to `sctp_recvmsg`, where it does not break. -/
def Client.send (sender : ι) (client : Client ι) : Option (Client ι × Message ι) :=
  match fgets 256 client.stdin with
  | none => none
  | some (chunk, stdin) =>
      let text := ((Buffer.zeroed 256).receive chunk).text []
      if text = [newline] then none
      else
        let message : Message ι :=
          { stream := client.locals.messageStream, payload := text, sender,
            number := client.sent.length }
        some
          ({ client with stdin, locals := client.locals.sent, control := .waiting,
                         sent := client.sent ++ [message.content] }, message)

def Client.receive (client : Client ι) (reply : Message ι) : Client ι :=
  if 0 < reply.payload.length then
    { client with locals := client.locals.received reply.stream, control := .reading,
                  received := client.received ++ [reply.content] }
  else { client with control := .reading }

end Client

structure World (ι : Type) where
  client : ι → Client ι
  server : Server ι
  toServer : ι → List (Message ι)
  toClient : ι → List (Message ι)

section World

variable {ι : Type} [DecidableEq ι]

def World.start (client : ι → Client ι) : World ι :=
  { client, server := .receiving, toServer := fun _ => [], toClient := fun _ => [] }

/-- One step of one process. Every call succeeds, and each association is reliable and
keeps the order of each stream. -/
inductive Step (wybor : Wybor) (world : World ι) : World ι → Prop where
  | send {c : ι} {client : Client ι} {message : Message ι} :
      (world.client c).control = .reading → (world.client c).send c = some (client, message) →
      Step wybor world
        { world with
          client := Function.update world.client c client
          toServer := Function.update world.toServer c (world.toServer c ++ [message]) }
  | close {c : ι} :
      (world.client c).control = .reading → (world.client c).send c = none →
      Step wybor world
        { world with
          client := Function.update world.client c { world.client c with control := .closed } }
  | recvmsg {c : ι} {message : Message ι} {rest : List (Message ι)} :
      world.server = .receiving → Takes Message.stream (world.toServer c) message rest →
      Step wybor world
        { world with
          server := .replying (recvmsg c message)
          toServer := Function.update world.toServer c rest }
  | reply {received : Received ι} (beyond : List UInt8) :
      world.server = .replying received →
      Step wybor world
        { world with
          server := .receiving
          toClient := Function.update world.toClient received.cliaddr
            (world.toClient received.cliaddr ++ [received.reply wybor beyond]) }
  | receive {c : ι} {reply : Message ι} {rest : List (Message ι)} :
      (world.client c).control = .waiting → Takes Message.stream (world.toClient c) reply rest →
      Step wybor world
        { world with
          client := Function.update world.client c ((world.client c).receive reply)
          toClient := Function.update world.toClient c rest }

end World

end NetworkServices.Sctp
