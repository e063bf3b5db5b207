import NetworkServices.Foundation.Buffer
import NetworkServices.Foundation.Interference
import NetworkServices.Greeting.Servers

/-! A greeting server and its clients on one host: the calls of their programs, and the kernel
that answers them. A connection waits in a queue until the server takes it, and what the server
writes to it is what its client can read. -/

set_option autoImplicit false

namespace NetworkServices.Greeting

inductive Stream where
  | stdout
  | stderr
  deriving DecidableEq

/-- The address of a client as it is printed. -/
structure Peer where
  address : CString
  port : UInt16
  v4mapped : Bool

/-- `send` is also the `write` of `server6.cpp`, and `getnameinfo` follows a `getsockname`. The
line that shows the message from the server has a call of its own, and so has the `inet_ntop` of
`server6.cpp`, which stores through a pointer that nothing has set. What is stored outside of an
array, or into memory that is in use, is an `overrun`, behind which nothing is known. -/
inductive Call where
  | print (stream : Stream) (text : CString)
  | perror
  | errno
  | getaddrinfo (node service : CString)
  | if_nametoindex (ifname : CString)
  | socket
  | bind (sockfd : Nat) (sin_port : UInt16)
  | listen (sockfd : Nat)
  | accept (sockfd : Nat)
  | inet_ntop
  | send (fd : Nat) (text : CString)
  | connect (sockfd : Option Nat)
  | getnameinfo (sockfd : Option Nat)
  | recv (sockfd : Option Nat) (size : Nat)
  | showMessage (label text : CString)
  | close (fd : Option Nat)
  | overrun

/-- `none` is the result -1, or an error of `getaddrinfo`, whose list is looked at for the family
of its first entry only. -/
abbrev Answer : Call → Type
  | .print _ _ | .perror | .showMessage _ _ | .close _ => Unit
  | .errno | .send _ _ => Int32
  | .getaddrinfo _ _ => Option Int32
  | .if_nametoindex _ => UInt32
  | .socket => Option Nat
  | .bind _ _ | .listen _ | .connect _ => Bool
  | .accept _ => Option Nat × Peer
  | .inet_ntop => Pointer
  | .getnameinfo _ => CString × CString
  | .recv _ _ => Option (List UInt8)
  | .overrun => Empty

abbrev Process := Program Call Answer

inductive Party (κ : Type) where
  | server
  | client (name : κ)
  deriving DecidableEq

/-- The process of the server, with what it has done and the clients its `send` has failed for. -/
structure Host (κ : Type) where
  table : Table κ
  listener : Option Nat := none
  events : List (Event κ) := []
  refused : List κ := []
  running : Bool := true

structure Client where
  connected : Bool := false
  shown : List CString := []

structure World (κ : Type) where
  host : Host κ
  queue : List κ := []
  client : κ → Client := fun _ => {}

variable {κ : Type}

def Host.accepted (host : Host κ) : List κ :=
  host.events.filterMap fun
    | .accepted _ client => some client
    | _ => none

/-- What the server has inherited are files of other kinds. -/
def World.start (inherited : List (Option Nat)) : World κ where
  host := { table := ⟨inherited.map (Option.map .other)⟩ }

variable [DecidableEq κ]

def writtenTo (client : κ) : Event κ → CString
  | .wrote _ (.connection other) bytes => if other = client then bytes else []
  | _ => []

def Host.sent (host : Host κ) (client : κ) : CString :=
  host.events.flatMap (writtenTo client)

/-- The other end of a connection is closed: it was accepted, and no descriptor is left of it. -/
def Host.Closed (host : Host κ) (client : κ) : Prop :=
  host.running = false ∨
    client ∈ host.accepted ∧ ∀ fd, host.table.lookup fd ≠ some (.connection client)

def World.updateClient (world : World κ) (name : κ) (change : Client → Client) : World κ :=
  { world with client := Function.update world.client name (change (world.client name)) }

/-- A connection comes to the server as long as it listens. What its client reads is a part of
what was written, nothing at the end, and an error when the server is gone. -/
def Client.promise (name : κ) (world : World κ) : (request : Call) → Answer request → Prop
  | .connect sockfd => fun succeeded => succeeded = true →
      sockfd ≠ none ∧ world.host.listener ≠ none ∧ world.host.running = true ∧
        (world.client name).connected = false
  | .recv sockfd size => fun
      | none => world.host.running = false
      | some bytes => sockfd ≠ none ∧ bytes.length ≤ size ∧ bytes <+: world.host.sent name ∧
          (bytes = [] → world.host.sent name = [] ∧ world.host.Closed name)
  | _ => fun _ => True

def Client.after (name : κ) (world : World κ) : (request : Call) → Answer request → World κ
  | .connect _ => fun succeeded =>
      if succeeded then
        { world.updateClient name ({ · with connected := true }) with
          queue := world.queue ++ [name] }
      else world
  | .showMessage _ text => fun _ =>
      world.updateClient name fun client => { client with shown := client.shown ++ [text] }
  | _ => fun _ => world

/-- A descriptor is the lowest one that is free. A text is written as a whole, to any file but
the socket that listens. -/
def Host.promise (world : World κ) : (request : Call) → Answer request → Prop
  | .socket => fun answer => ∀ fd ∈ answer, fd = world.host.table.lowestFree
  | .accept sockfd => fun answer => ∀ fd ∈ answer.1, world.host.listener = some sockfd ∧
      world.queue ≠ [] ∧ fd = world.host.table.lowestFree
  | .send fd text => fun result => 0 < result →
      result.toInt = text.length ∧ (world.host.table.lookup fd).isSome ∧
        world.host.listener ≠ some fd
  | _ => fun _ => True

def Host.accept (host : Host κ) (client : κ) : Host κ :=
  let (fd, table) := host.table.allocate (.connection client)
  { host with table, events := host.events ++ [.accepted fd client] }

def Host.write (host : Host κ) (fd : Nat) (text : CString) : Host κ :=
  match host.table.lookup fd with
  | some target => { host with events := host.events ++ [.wrote fd target text] }
  | none => host

def Host.refuse (host : Host κ) (fd : Nat) : Host κ :=
  match host.table.lookup fd with
  | some (.connection client) => { host with refused := host.refused ++ [client] }
  | _ => host

def Host.close (host : Host κ) (fd : Nat) : Host κ :=
  { host with
    table := host.table.close fd
    events := host.events ++ [.closed fd (host.table.lookup fd)] }

def Host.after (world : World κ) : (request : Call) → Answer request → World κ
  | .socket => fun
      | none => world
      | some fd => { world with host.table := (world.host.table.allocate (.other fd)).2 }
  | .listen sockfd => fun succeeded =>
      if succeeded then { world with host.listener := some sockfd } else world
  | .accept _ => fun answer =>
      match answer.1, world.queue with
      | some _, client :: queue => { world with queue, host := world.host.accept client }
      | _, _ => world
  | .send fd text => fun result =>
      { world with host :=
          if 0 < result then world.host.write fd text else world.host.refuse fd }
  | .close (some fd) => fun _ => { world with host := world.host.close fd }
  | _ => fun _ => world

def shared : Shared (Party κ) Call Answer (World κ) where
  promise
    | .server => Host.promise
    | .client name => Client.promise name
  after
    | .server => Host.after
    | .client name => Client.after name
  ended
    | .server => fun world => { world with host.running := false }
    | .client _ => id

end NetworkServices.Greeting
