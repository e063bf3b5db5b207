import NetworkServices.Palindrome.Client

/-! The palindrome server with any number of clients. Datagrams may overtake each other, get lost
and, where the network repeats them, arrive more than once. -/

set_option autoImplicit false

namespace NetworkServices.Palindrome

/-- In front of `getline`, in front of `recvfrom`, and behind the two exits. -/
inductive Control where
  | writing
  | waiting
  | closed
  | failed
  deriving DecidableEq

structure Client where
  control : Control
  stream : Istream
  /-- `buff`, which has no values at first. -/
  buff : Buffer 256
  asked : List CString
  /-- The texts behind `Response from server: `. -/
  shown : List CString

/-- `cin.getline` and `send`. -/
def Client.ask (client : Client) : Client :=
  { client with
    control := if message client.stream = [] then .closed else .waiting
    stream := (client.stream.getline 256).2
    asked := client.asked ++ [message client.stream] }

/-- `recvfrom`, and the text that is printed. No terminator is stored behind the reply. -/
def Client.receive (client : Client) (reply : UInt8) (beyond : List UInt8) : Client :=
  let buff := client.buff.receive [reply]
  { client with
    control := .writing
    buff := buff
    shown := client.shown ++ [buff.text beyond] }

variable {ι : Type}

/-- Datagrams with the client they come from or go to. The number of the message is not a part of
them: neither program looks at one. -/
inductive Packet (ι : Type) where
  | request (client : ι) (number : Nat) (text : CString)
  | reply (client : ι) (number : Nat) (letter : UInt8)

def Packet.client : Packet ι → ι
  | .request client _ _ | .reply client _ _ => client

def Packet.number : Packet ι → Nat
  | .request _ number _ | .reply _ number _ => number

structure World (ι : Type) where
  client : ι → Client
  /-- The buffer of the server, until it has ended. -/
  server : Option (Buffer 256)
  received : List CString
  transit : List (Packet ι)
  /-- The clients with a datagram that was lost. -/
  lost : ι → Bool

def World.start (inputs : ι → Istream) (buffs : ι → Buffer 256) : World ι where
  client := fun c => ⟨.writing, inputs c, buffs c, [], []⟩
  server := some (.zeroed 256)
  received := []
  transit := []
  lost := fun _ => false

variable [DecidableEq ι]

/-- One step of a process or of the network. The server ends at an empty datagram, and as well
where `recvfrom` or `malloc` fails; a client ends as well where one of its calls fails. -/
inductive Step (repeats : Prop) (world : World ι) : World ι → Prop where
  | ask {c : ι} (writing : (world.client c).control = .writing) :
      Step repeats world { world with
        client := Function.update world.client c (world.client c).ask
        transit := .request c (world.client c).asked.length (message (world.client c).stream) ::
          world.transit }
  | serve {c : ι} {number : Nat} {text : CString} {rest : List (Packet ι)}
      {buffer after : Buffer 256} {complained : Bool} {letter : UInt8} (round : Round)
      (running : world.server = some buffer)
      (arrives : world.transit.Perm (.request c number text :: rest))
      (received : round.received = delivered text)
      (served : Palindrome.serve buffer round = (.replied complained letter, after)) :
      Step repeats world { world with
        server := some after
        received := world.received ++ [text]
        transit := .reply c number letter :: rest }
  | shutDown {c : ι} {number : Nat} {rest : List (Packet ι)}
      (running : world.server ≠ none)
      (arrives : world.transit.Perm (.request c number [] :: rest)) :
      Step repeats world { world with
        server := none
        transit := rest }
  | crash : Step repeats world { world with server := none }
  | receive {c : ι} {number : Nat} {letter : UInt8} {rest : List (Packet ι)} (beyond : List UInt8)
      (waiting : (world.client c).control = .waiting)
      (arrives : world.transit.Perm (.reply c number letter :: rest)) :
      Step repeats world { world with
        client := Function.update world.client c ((world.client c).receive letter beyond)
        transit := rest }
  | fail {c : ι} (running : (world.client c).control ≠ .closed) :
      Step repeats world { world with
        client := Function.update world.client c { world.client c with control := .failed } }
  | lose {packet : Packet ι} {rest : List (Packet ι)}
      (arrives : world.transit.Perm (packet :: rest)) :
      Step repeats world { world with
        transit := rest
        lost := Function.update world.lost packet.client true }
  | duplicate {packet : Packet ι} (member : packet ∈ world.transit) (again : repeats) :
      Step repeats world { world with transit := packet :: world.transit }

end NetworkServices.Palindrome
