import NetworkServices.Foundation.CString
import NetworkServices.Foundation.DescriptorTable

/-! The two greeting servers, `server4.c` and `server6.cpp`: their accept loops over the
descriptor table of the process. -/

set_option autoImplicit false

namespace NetworkServices.Greeting

inductive File (κ : Type) where
  | other (name : Nat)
  | connection (client : κ)
  deriving DecidableEq

inductive Event (κ : Type) where
  | accepted (fd : Nat) (client : κ)
  | wrote (fd : Nat) (target : File κ) (bytes : CString)
  | closed (fd : Nat) (target : Option (File κ))
  /-- A store into memory that is in use, behind which nothing is known. -/
  | corrupted
  deriving DecidableEq

/-- What a pointer that nothing has set points to: writable memory that nothing looks at,
memory that is in use, or none that can be written. -/
inductive Pointer where
  | spare
  | used
  | fault
  deriving DecidableEq

abbrev Table (κ : Type) := DescriptorTable (File κ)

def msg : CString := ascii "Laboratorium PUS"

variable {κ : Type}

def accept (table : Table κ) (incoming : Option κ) : Int × Table κ :=
  match incoming with
  | none => (-1, table)
  | some client =>
      let (fd, table) := table.allocate (.connection client)
      (fd, table)

def accepted (fd : Nat) (incoming : Option κ) : List (Event κ) :=
  match incoming with
  | none => []
  | some client => [.accepted fd client]

/-- `send` or `write` of the whole text: the event, and whether the descriptor is open. -/
def write (table : Table κ) (fd : Nat) : List (Event κ) × Bool :=
  match table.lookup fd with
  | none => ([], false)
  | some target => ([.wrote fd target msg], true)

/-- The loop of `server4.c`, until `accept` fails or has no further connection. -/
def sending_response (table : Table κ) : List (Option κ) → List (Event κ)
  | [] => []
  | incoming :: rest =>
      let (new_socket, table) := accept table incoming
      if new_socket < 0 then []
      else
        let new_socket := new_socket.toNat
        accepted new_socket incoming ++ (write table new_socket).1 ++
          .closed new_socket (table.lookup new_socket) ::
            sending_response (table.close new_socket) rest

/-- The loop of `server6.cpp`. In its condition the comparison comes first, so what is
assigned is whether `accept` failed. Each pass declares `ipAddressCString` anew and has
`inet_ntop` store through it, which a signal ends where it meets a fault. -/
def serverLoop (table : Table κ) : List (Option (κ × Pointer)) → List (Event κ)
  | [] => []
  | incoming :: rest =>
      let client := incoming.map Prod.fst
      let (fd, table) := accept table client
      let clientSocketDescriptor := if fd = -1 then 1 else 0
      if clientSocketDescriptor ≠ 0 then []
      else
        match (incoming.map Prod.snd).getD .spare with
        | .fault => accepted fd.toNat client
        | .used => accepted fd.toNat client ++ [.corrupted]
        | .spare =>
            match write table clientSocketDescriptor with
            | (_, false) => accepted fd.toNat client
            | (wrote, true) =>
                accepted fd.toNat client ++ wrote ++
                  .closed clientSocketDescriptor (table.lookup clientSocketDescriptor) ::
                    serverLoop (table.close clientSocketDescriptor) rest

/-- Each connection gets the greeting once, on its own descriptor, which is closed
before the next one is accepted; no other descriptor is written or closed. -/
inductive Serves : List (Event κ) → Prop where
  | nil : Serves []
  | connection {fd : Nat} {client : κ} {rest : List (Event κ)} :
      Serves rest →
      Serves (.accepted fd client :: .wrote fd (.connection client) msg ::
        .closed fd (some (.connection client)) :: rest)

end NetworkServices.Greeting
