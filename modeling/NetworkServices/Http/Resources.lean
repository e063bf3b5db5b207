import NetworkServices.Http.Connection
import NetworkServices.Http.Process
import Mathlib.Logic.Function.Basic
import Mathlib.Logic.Relation

/-! The resources of the HTTP server in the interleaved runs of its threads: the table of
descriptors, which has a limit, and the blocks of memory by which `main` hands a connection
over to its thread. -/

set_option autoImplicit false

namespace NetworkServices.Http.Resources

/-- A block of memory: `new_sock` with the descriptor that it holds, or `p`. -/
inductive Block where
  | new_sock (descriptor : Nat)
  | p

abbrev Heap := Nat → Option Block

/-- The loop of `main`: in front of `accept`, of `malloc`, and of `pthread_create`. -/
inductive Main where
  | accepting
  | storing (new_socket : Nat)
  | creating (new_socket new_sock : Nat)

/-- `connection_handler` in front of the calls that take or give back a resource, with the
argument and `sock`. -/
inductive Stage where
  | starting (socket_descriptor : Nat)
  | receiving (socket_descriptor sock : Nat)
  | answering (socket_descriptor sock : Nat) (request : Request)
  | listing (socket_descriptor sock : Nat) (request : Request) (surroundings : Surroundings)
      (dir : Nat)
  | replying (socket_descriptor sock : Nat) (stored : List (Store Target)) (text : CString)
  | freeing (socket_descriptor sock : Nat) (stored : List (Store Target)) (text : CString)
  | returned (stored : List (Store Target)) (text : CString)

/-- What the handler has stored. -/
def Stage.stores : Stage → List (Store Target)
  | .listing _ _ request surroundings _ => storesBefore surroundings request
  | .replying _ _ stored _ | .freeing _ _ stored _ | .returned stored _ => stored
  | .starting _ | .receiving _ _ | .answering _ _ _ => []

/-- A thread, and the descriptor of the connection for which `main` started it. -/
structure Handler where
  connection : Nat
  stage : Stage

structure Shared where
  table : DescriptorTable OpenFile
  heap : Heap
  /-- The blocks that were allocated for `p`. -/
  paths : List Nat

structure Machine where
  shared : Shared
  main : Main
  handlers : List Handler
  /-- The descriptors that `accept` returned. -/
  accepted : List Nat
  ended : Option Cause

def Machine.start (inherited : DescriptorTable OpenFile) : Machine where
  shared := ⟨inherited, fun _ => none, []⟩
  main := .accepting
  handlers := []
  accepted := []
  ended := none

/-- The next step of a handler. A call fails at any time, and one that takes a descriptor
also when every descriptor below the limit is open. -/
inductive HandlerStep (limit : Nat) : Shared → Stage → Shared → Stage ⊕ Cause → Prop where
  | sock {shared : Shared} {address descriptor : Nat}
      (stored : shared.heap address = some (.new_sock descriptor)) :
      HandlerStep limit shared (.starting address) shared (.inl (.receiving address descriptor))
  | recv {shared : Shared} {address fd : Nat} (request : Request) :
      HandlerStep limit shared (.receiving address fd) shared (.inl (.answering address fd request))
  | recvFailed {shared : Shared} {address fd : Nat} {result : Recv}
      (missing : ∀ request, result ≠ .request request) :
      HandlerStep limit shared (.receiving address fd) shared (.inr .exitFailure)
  | faults {shared : Shared} {address fd : Nat} {request : Request} {surroundings : Surroundings}
      (outside : ¬ AllInside (storesBefore surroundings request)) :
      HandlerStep limit shared (.answering address fd request) shared (.inr .killed)
  | crashes {shared : Shared} {address fd : Nat} {request : Request} {surroundings : Surroundings}
      (answered : (answer surroundings request).2 = .crashes) :
      HandlerStep limit shared (.answering address fd request) shared (.inr .killed)
  | exits {shared : Shared} {address fd : Nat} {request : Request} {surroundings : Surroundings}
      (answered : (answer surroundings request).2 = .exits) :
      HandlerStep limit shared (.answering address fd request) shared (.inr .exitFailure)
  | skips {shared : Shared} {address fd : Nat} {request : Request} {surroundings : Surroundings}
      {text : CString} (plain : protocol surroundings request ≠ ascii "HTTP/1.1")
      (answered : (answer surroundings request).2 = .reply text) :
      HandlerStep limit shared (.answering address fd request) shared
        (.inl (.replying address fd (storesBefore surroundings request) text))
  | opendir {shared : Shared} {address fd p : Nat} {request : Request}
      {surroundings : Surroundings} {text : CString}
      (asked : protocol surroundings request = ascii "HTTP/1.1")
      (answered : (answer surroundings request).2 = .reply text)
      (fresh : shared.heap p = none) (free : shared.table.lowestFree < limit) :
      HandlerStep limit shared (.answering address fd request)
        ⟨(shared.table.allocate .directory).2, Function.update shared.heap p (some .p),
          shared.paths ++ [p]⟩
        (.inl (.listing address fd request surroundings shared.table.lowestFree))
  | closedir {shared : Shared} {address fd dir : Nat} {request : Request}
      {surroundings : Surroundings} {text : CString}
      (answered : (answer surroundings request).2 = .reply text) :
      HandlerStep limit shared (.listing address fd request surroundings dir)
        { shared with table := shared.table.close dir }
        (.inl (.replying address fd (storesBefore surroundings request) text))
  | write {shared : Shared} {address fd : Nat} {stored : List (Store Target)} {text : CString} :
      HandlerStep limit shared (.replying address fd stored text) shared
        (.inl (.freeing address fd stored text))
  | writeFailed {shared : Shared} {address fd : Nat} {stored : List (Store Target)}
      {text : CString} :
      HandlerStep limit shared (.replying address fd stored text) shared (.inr .exitFailure)
  | free {shared : Shared} {address fd : Nat} {stored : List (Store Target)} {text : CString} :
      HandlerStep limit shared (.freeing address fd stored text)
        { shared with heap := Function.update shared.heap address none }
        (.inl (.returned stored text))
  | faultsLater {shared : Shared} {stage : Stage} (outside : ¬ AllInside stage.stores) :
      HandlerStep limit shared stage shared (.inr .killed)

inductive MainStep (limit : Nat) : Machine → Machine → Prop where
  | accept {machine : Machine} (waiting : machine.main = .accepting)
      (free : machine.shared.table.lowestFree < limit)
      (nonzero : machine.shared.table.lowestFree ≠ 0) :
      MainStep limit machine { machine with
        shared := { machine.shared with table := (machine.shared.table.allocate .connection).2 }
        main := .storing machine.shared.table.lowestFree
        accepted := machine.accepted ++ [machine.shared.table.lowestFree] }
  | acceptZero {machine : Machine} (waiting : machine.main = .accepting)
      (free : machine.shared.table.lowestFree < limit)
      (zero : machine.shared.table.lowestFree = 0) :
      MainStep limit machine { machine with ended := some .exitSuccess }
  | acceptFailed {machine : Machine} (waiting : machine.main = .accepting) :
      MainStep limit machine { machine with ended := some .exitFailure }
  | malloc {machine : Machine} {new_socket new_sock : Nat}
      (connected : machine.main = .storing new_socket)
      (fresh : machine.shared.heap new_sock = none) :
      MainStep limit machine { machine with
        shared := { machine.shared with
          heap := Function.update machine.shared.heap new_sock (some (.new_sock new_socket)) }
        main := .creating new_socket new_sock }
  | mallocFailed {machine : Machine} {new_socket : Nat}
      (connected : machine.main = .storing new_socket) :
      MainStep limit machine { machine with ended := some .killed }
  | create {machine : Machine} {new_socket new_sock : Nat}
      (stored : machine.main = .creating new_socket new_sock) :
      MainStep limit machine { machine with
        main := .accepting
        handlers := machine.handlers ++ [⟨new_socket, .starting new_sock⟩] }
  | createFailed {machine : Machine} {new_socket new_sock : Nat}
      (stored : machine.main = .creating new_socket new_sock) :
      MainStep limit machine { machine with main := .accepting }

/-- A step of the process, which takes none when it has ended. -/
inductive Step (limit : Nat) : Machine → Machine → Prop where
  | main {machine next : Machine} (running : machine.ended = none)
      (step : MainStep limit machine next) : Step limit machine next
  | handler {machine : Machine} {front back : List Handler} {handler : Handler}
      {shared : Shared} {stage : Stage} (running : machine.ended = none)
      (present : machine.handlers = front ++ handler :: back)
      (step : HandlerStep limit machine.shared handler.stage shared (.inl stage)) :
      Step limit machine
        { machine with shared, handlers := front ++ ⟨handler.connection, stage⟩ :: back }
  | ends {machine : Machine} {front back : List Handler} {handler : Handler}
      {shared : Shared} {cause : Cause} (running : machine.ended = none)
      (present : machine.handlers = front ++ handler :: back)
      (step : HandlerStep limit machine.shared handler.stage shared (.inr cause)) :
      Step limit machine { machine with ended := some cause }

abbrev Reachable (limit : Nat) (inherited : DescriptorTable OpenFile) : Machine → Prop :=
  Relation.ReflTransGen (Step limit) (.start inherited)

/-!
## Who holds what
-/

/-- The block that a handler frees at its end. -/
def Stage.block : Stage → Option Nat
  | .starting address | .receiving address _ | .answering address _ _
  | .listing address _ _ _ _ | .replying address _ _ _ | .freeing address _ _ _ => some address
  | .returned _ _ => none

def Stage.descriptor : Stage → Option Nat
  | .receiving _ fd | .answering _ fd _ | .listing _ fd _ _ _ | .replying _ fd _ _
  | .freeing _ fd _ _ => some fd
  | .starting _ | .returned _ _ => none

def Stage.directory : Stage → Option Nat
  | .listing _ _ _ _ dir => some dir
  | _ => none

def Handler.block (handler : Handler) : Option (Nat × Nat) :=
  handler.stage.block.map (·, handler.connection)

def Main.block : Main → Option (Nat × Nat)
  | .creating new_socket new_sock => some (new_sock, new_socket)
  | _ => none

/-- The connection for which there is no thread yet. -/
def Main.pending : Main → Option Nat
  | .storing new_socket | .creating new_socket _ => some new_socket
  | .accepting => none

/-- The blocks `new_sock` that somebody still has to free, and the connections in them. -/
def Machine.blocks (machine : Machine) : List (Nat × Nat) :=
  machine.handlers.filterMap Handler.block ++ machine.main.block.toList

def Machine.directories (machine : Machine) : List Nat :=
  machine.handlers.filterMap (·.stage.directory)

/-- The connections that have a thread or still get one. -/
def Machine.connections (machine : Machine) : List Nat :=
  machine.handlers.map Handler.connection ++ machine.main.pending.toList

/-- What the resources are like at every time of a run. -/
structure Accounted (limit : Nat) (inherited : DescriptorTable OpenFile) (machine : Machine) :
    Prop where
  /-- Each connection that was ever accepted keeps a descriptor, and each directory that is
  being listed has one. -/
  counted : machine.shared.table.openCount =
    inherited.openCount + machine.accepted.length + machine.directories.length
  limited : machine.shared.table.openCount ≤ limit
  /-- Each has its own one, which refers to it and to nothing else. -/
  distinct : machine.accepted.Nodup
  connected : ∀ fd ∈ machine.accepted, machine.shared.table.lookup fd = some .connection
  /-- So has each directory, from `opendir` to `closedir`. -/
  unshared : machine.directories.Nodup
  listed : ∀ dir ∈ machine.directories, machine.shared.table.lookup dir = some .directory
  /-- No two threads serve the same connection, and each reads from and writes to its own. -/
  served : machine.connections.Sublist machine.accepted
  own : ∀ handler ∈ machine.handlers, ∀ fd ∈ handler.stage.descriptor, fd = handler.connection
  /-- The block of a thread holds the descriptor of its connection until the thread frees it. -/
  separate : (machine.blocks.map Prod.fst).Nodup
  stored : ∀ block ∈ machine.blocks, machine.shared.heap block.1 = some (.new_sock block.2)
  /-- What was allocated for `p` stays allocated. -/
  leaked : machine.shared.paths.Nodup ∧
    ∀ address ∈ machine.shared.paths, machine.shared.heap address = some .p

end NetworkServices.Http.Resources
