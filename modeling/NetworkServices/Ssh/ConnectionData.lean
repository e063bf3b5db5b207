import NetworkServices.Foundation.CString
import NetworkServices.Foundation.Lifetime

/-! The functions `parse_connection_data` and `free_connection_data` of `libcommon.c`, with
the calls of `malloc` and `free` they make. -/

set_option autoImplicit false

namespace NetworkServices.Ssh

/-- An address in memory; 0 is the null pointer. -/
abbrev Pointer := Nat

/-- A member of a structure: what the memory held before, or what was stored there. -/
inductive Field (α : Type) where
  | indeterminate (value : α)
  | stored (value : α)
  deriving DecidableEq

namespace Field

variable {α : Type}

def value : Field α → α
  | indeterminate value => value
  | stored value => value

def Initialised : Field α → Prop
  | indeterminate _ => False
  | stored _ => True

end Field

structure Text where
  pointer : Pointer
  text : CString
  deriving DecidableEq

structure ConnectionData where
  username : Field Text
  address : Field UInt32
  port : UInt16
  deriving DecidableEq

/-- The results of successive calls of `malloc`. Blocks that are not null are distinct:
nothing is freed between the calls. -/
structure Malloc where
  result : Nat → Pointer
  distinct : ∀ i j, i ≠ j → result i ≠ 0 → result i ≠ result j

inductive Resolution where
  | failed (error : CString)
  | empty
  | found (sin_addr : UInt32)
  deriving DecidableEq

/-- The calls and the memory that a run of the parser depends on. -/
structure Environment where
  malloc : Malloc
  getaddrinfo : CString → Resolution
  /-- What a new structure holds before anything is stored in it. -/
  username : Text
  address : UInt32

def CD_ADDRESS : UInt32 := 1
def CD_PORT : UInt32 := 2
def CD_USERNAME : UInt32 := 4

/-- A use of memory that the C library does not check. -/
inductive MemoryEvent where
  | malloc (block : Pointer)
  | test (username : Field Text)
  | free (block : Pointer)
  deriving DecidableEq

/-- The loop over the characters of a port: the value it leaves in `i`. It ends at the
first character that is not a digit, the terminator at the latest. -/
def digitLoop (i : Nat) : CString → Nat
  | [] => 5
  | char :: rest => if !isdigit char then 5 else digitLoop (i + 1) rest

def invalidArgument (arg : CString) : CString :=
  ascii "Invalid argument: " ++ arg ++ ascii ".\n"

def invalidPort (port : UInt64) : CString :=
  ascii "Invalid port number: " ++ decimal port.toNat ++ ascii ".\n"

/-- The port that a text stands for, or what is printed: a text for the digits, the
number for its range. -/
def portNumber (invalid text : CString) : Except CString UInt16 :=
  let i := digitLoop 0 text
  if i = 0 ∨ i > 5 then .error invalid
  else
    let port := UInt64.ofInt (strtol text)
    if port = 0 ∨ port > 65535 then .error (invalidPort port) else .ok port.toUInt16

def separator : UInt8 := 64

structure State where
  cd : ConnectionData
  required : UInt32
  /-- The calls of `malloc` up to here. -/
  mallocs : Nat
  events : List MemoryEvent

def State.start (environment : Environment) (required : UInt32) : State where
  cd :=
    { username := .indeterminate environment.username
      address := .indeterminate environment.address
      port := 22 }
  required
  mallocs := 1
  events := [.malloc (environment.malloc.result 0)]

def State.setPort (state : State) (port : UInt16) : State :=
  { state with cd := { state.cd with port }, required := state.required &&& ~~~CD_PORT }

/-- How the loop over the arguments ends: behind the last one, at `goto free` with a
message, or in `memcpy` to a null pointer. -/
inductive Control where
  | finished
  | failed (message : CString)
  | crashed
  deriving DecidableEq

/-- The branch of an argument with a user name: the state behind it, or where it ends. -/
def userArgument (environment : Environment) (state : State) (arg : CString) : Control × State :=
  let name := arg.takeWhile (· ≠ separator)
  let host := arg.drop (name.length + 1)
  if name = [] then (.failed (invalidArgument arg), state)
  else
    let block := environment.malloc.result state.mallocs
    if block = 0 then (.crashed, { state with mallocs := state.mallocs + 1 })
    else
      let state : State :=
        { cd := { state.cd with username := .stored ⟨block, name⟩ }
          required := state.required &&& ~~~CD_USERNAME
          mallocs := state.mallocs + 1
          events := state.events ++ [.malloc block] }
      match environment.getaddrinfo host with
      | .failed error =>
          (.failed (ascii "getaddrinfo() failed: " ++ error ++ ascii "\n"), state)
      | .empty => (.failed (invalidArgument arg), state)
      | .found sin_addr =>
          (.finished,
            { state with
              cd := { state.cd with address := .stored sin_addr }
              required := state.required &&& ~~~CD_ADDRESS })

def argumentLoop (environment : Environment) : State → List CString → Control × State
  | state, [] => (.finished, state)
  | state, arg :: rest =>
      if (ascii "-p").isPrefixOf arg then
        if arg.length ≠ 2 then
          match portNumber (invalidArgument arg) (arg.drop 2) with
          | .error message => (.failed message, state)
          | .ok port => argumentLoop environment (state.setPort port) rest
        else
          match rest with
          | [] => (.failed (invalidArgument arg), state)
          | text :: rest =>
              match portNumber (invalidArgument (arg ++ ascii " " ++ text)) text with
              | .error message => (.failed message, state)
              | .ok port => argumentLoop environment (state.setPort port) rest
      else if separator ∈ arg then
        match userArgument environment state arg with
        | (.finished, state) => argumentLoop environment state rest
        | stopped => stopped
      else argumentLoop environment state rest

structure Allocated where
  block : Pointer
  cd : ConnectionData
  deriving DecidableEq

/-- `free_connection_data`; a null pointer is nothing to free. -/
def free_connection_data : Option Allocated → List MemoryEvent
  | none => []
  | some allocated =>
      .test allocated.cd.username ::
        (if allocated.cd.username.value.pointer ≠ 0 then
          [.free allocated.cd.username.value.pointer] else []) ++ [.free allocated.block]

/-- The usage text, which is not quite the same in its two places. -/
def usage (program port : CString) : CString :=
  ascii "Invocation: " ++ program ++ ascii " [OPTIONS] <USER NAME>@<HOST>\n\n" ++
    ascii "OPTIONS:\n" ++ ascii "  -p <port number>\n" ++ port

structure Outcome where
  result : Option Allocated
  message : CString
  events : List MemoryEvent
  deriving DecidableEq

def failure (message : CString) (events : List MemoryEvent) (allocated : Option Allocated) :
    Outcome :=
  { result := none, message, events := events ++ free_connection_data allocated }

/-- `parse_connection_data`. With less than two arguments it ends the process. -/
def parse_connection_data (environment : Environment) (argv : List CString) (required : UInt32) :
    Outcome :=
  let program := argv.headD []
  if argv.length < 2 then
    { result := none
      message := usage program (ascii "  Port to connect to remote host; default: 22\n")
      events := [] }
  else
    let block := environment.malloc.result 0
    if block = 0 then failure (ascii "malloc() failed!\n") [] none
    else
      match argumentLoop environment (.start environment required) argv with
      | (.finished, state) =>
          if state.required ≠ 0 then
            failure (usage program (ascii "  Port to connect to on the remote host; default: 22\n"))
              state.events (some ⟨block, state.cd⟩)
          else { result := some ⟨block, state.cd⟩, message := [], events := state.events }
      | (.failed message, state) => failure message state.events (some ⟨block, state.cd⟩)
      | (.crashed, state) => { result := none, message := [], events := state.events }

end NetworkServices.Ssh
