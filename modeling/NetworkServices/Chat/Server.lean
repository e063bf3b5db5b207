import NetworkServices.Foundation.Buffer
import NetworkServices.Foundation.ByteStream
import NetworkServices.Foundation.SlotVector
import Mathlib.Logic.Function.Basic

/-! The chat server `server4.cpp`: one round of its event loop, from `select` to the
end of the loop over the clients. -/

set_option autoImplicit false

namespace NetworkServices.Chat

/-- `fd_set`, one bit for each descriptor. -/
abbrev FdSet := Nat → Bool

structure Server where
  listenSocketDescriptor : Nat
  clients : SlotVector Nat

/-- How `select` returns. Interrupted by a signal it leaves the set as it was. -/
inductive Select where
  | ready (reported : FdSet)
  | interrupted
  | failed

/-- The result of a call of `read`, and which of the calls of `send` behind it finds its
client gone. That call raises `SIGPIPE`, which the program does not catch. -/
structure Answer where
  read : ReadResult UInt8
  broken : Option Nat
  deriving DecidableEq

structure Input where
  select : Select
  accepted : Option Nat
  /-- Whether the welcome message is sent in full. The server also ends where this
  `send` raises `SIGPIPE`. -/
  welcomed : Bool
  /-- One for each call of `read`, in order. A call behind the last one does not
  return. -/
  answers : List Answer
  beyond : List UInt8

/-- Whether the process still runs, and where it does not, why. `undefined` is the
`erase` of an iterator at the end. -/
inductive Control where
  | running
  | exited
  | blocked
  | undefined
  | killed
  deriving DecidableEq

structure Visit where
  slot : Nat
  size : Nat
  read : Option (Nat × Option (ReadResult UInt8))
  sent : List (Nat × CString)
  closed : Option Nat
  deriving DecidableEq

structure State where
  clients : SlotVector Nat
  watchedSockets : FdSet
  messageBuffer : Buffer 256
  answers : List Answer

/-- The value in a slot, whether or not the slot still belongs to the vector. -/
def State.element (state : State) (slot : Nat) : Nat :=
  state.clients.slots[slot]?.getD 0

/-- `"<client " << element << ">: "`. -/
def header (element : Nat) : CString :=
  ascii "<client " ++ decimal element ++ ascii ">: "

/-- The calls of `send`, up to one that ends the process. -/
def broadcast (clients : SlotVector Nat) (element : Nat) (text : CString)
    (broken : Option Nat) : List (Nat × CString) × Control :=
  let calls := (clients.elements.filter (· ≠ element)).map fun el => (el, header element ++ text)
  match broken with
  | none => (calls, .running)
  | some call => (calls.take (call + 1), if call < calls.length then .killed else .running)

/-- The loop body for a descriptor whose `read` returned. A failed `read` takes the
branch of a message. -/
def serveClient (beyond : List UInt8) (state : State) (slot element : Nat)
    (answer : Answer) : Visit × Control × State :=
  let visit : Visit :=
    { slot, size := state.clients.size, read := some (element, some answer.read), sent := [],
      closed := none }
  match answer.read with
  | .finished =>
      let watchedSockets := Function.update state.watchedSockets element false
      match state.clients.eraseValue element with
      | some clients =>
          ({ visit with closed := some element }, .running, { state with clients, watchedSockets })
      | none => ({ visit with closed := some element }, .undefined, { state with watchedSockets })
  | .data bytes =>
      let messageBuffer := state.messageBuffer.receive bytes
      let (sent, control) :=
        broadcast state.clients element (messageBuffer.text beyond) answer.broken
      ({ visit with sent }, control, { state with messageBuffer })
  | .failed =>
      let (sent, control) :=
        broadcast state.clients element (state.messageBuffer.text beyond) answer.broken
      ({ visit with sent }, control, state)

def visitSlot (beyond : List UInt8) (state : State) (slot : Nat) : Visit × Control × State :=
  let element := state.element slot
  if state.watchedSockets element then
    match state.answers with
    | [] =>
        ({ slot, size := state.clients.size, read := some (element, none), sent := [],
           closed := none }, .blocked, state)
    | answer :: answers => serveClient beyond { state with answers } slot element answer
  else
    ({ slot, size := state.clients.size, read := none, sent := [], closed := none }, .running,
      state)

/-- The loop over the slots that the vector had when it started. -/
def clientLoop (beyond : List UInt8) : Nat → Nat → State → List Visit × Control × State
  | 0, _, state => ([], .running, state)
  | count + 1, slot, state =>
      match visitSlot beyond state slot with
      | (visit, .running, state) =>
          let rest := clientLoop beyond count (slot + 1) state
          (visit :: rest.1, rest.2)
      | (visit, stopped) => ([visit], stopped)

def checkConnectedClients (beyond : List UInt8) (clients : SlotVector Nat)
    (watchedSockets : FdSet) (answers : List Answer) : List Visit × Control × State :=
  clientLoop beyond clients.size 0
    { clients, watchedSockets, messageBuffer := .zeroed 256, answers }

def welcomeMessage : CString := ascii "Welcome to chat project\n"

/-- What `checkForNewConnection` did. There are no clients left where it exits. -/
structure Connection where
  accept : Option (Option Nat)
  welcome : List (Nat × CString)
  clients : Option (SlotVector Nat)

def checkForNewConnection (server : Server) (watchedSockets : FdSet) (input : Input) :
    Connection :=
  if watchedSockets server.listenSocketDescriptor then
    match input.accepted with
    | none => { accept := some none, welcome := [], clients := none }
    | some new_socket =>
        { accept := some (some new_socket)
          welcome := [(new_socket, welcomeMessage)]
          clients := if input.welcomed then some (server.clients.pushBack new_socket) else none }
  else { accept := none, welcome := [], clients := some server.clients }

/-- The loop that adds the clients to the set and keeps the greatest descriptor. -/
def watchLoop : FdSet × Nat → List Nat → FdSet × Nat
  | watched, [] => watched
  | (watchedSockets, maxSocketDescriptor), element :: rest =>
      watchLoop (Function.update watchedSockets element true,
        if element > maxSocketDescriptor then element else maxSocketDescriptor) rest

def watch (server : Server) : FdSet × Nat :=
  watchLoop (Function.update (fun _ => false) server.listenSocketDescriptor true,
    server.listenSocketDescriptor) server.clients.elements

/-- The set behind `select(maxSocketDescriptor + 1, &watchedSockets, …)`. -/
def selected (watched : FdSet × Nat) (reported : FdSet) : FdSet := fun fd =>
  watched.1 fd && decide (fd < watched.2 + 1) && reported fd

structure Result where
  accept : Option (Option Nat)
  welcome : List (Nat × CString)
  visits : List Visit
  control : Control
  server : Server
  unread : List Answer

def check (server : Server) (watchedSockets : FdSet) (input : Input) : Result :=
  let connection := checkForNewConnection server watchedSockets input
  match connection.clients with
  | none =>
      { accept := connection.accept, welcome := connection.welcome, visits := [],
        control := .exited, server, unread := input.answers }
  | some clients =>
      let loop := checkConnectedClients input.beyond clients watchedSockets input.answers
      { accept := connection.accept, welcome := connection.welcome, visits := loop.1,
        control := loop.2.1, server := { server with clients := loop.2.2.clients },
        unread := loop.2.2.answers }

/-- One round of `while(true)`. -/
def round (server : Server) (input : Input) : Result :=
  let watched := watch server
  match input.select with
  | .ready reported => check server (selected watched reported) input
  | .interrupted => check server watched.1 input
  | .failed =>
      { accept := none, welcome := [], visits := [], control := .exited, server,
        unread := input.answers }

end NetworkServices.Chat
