import NetworkServices.Foundation.Credentials
import NetworkServices.Foundation.CString
import Mathlib.Data.Finset.Basic
import Mathlib.Data.Finset.Insert

/-! The server `capserver.c`, which raises one capability to bind a well-known port and
empties its capability sets before it listens. -/

set_option autoImplicit false

namespace NetworkServices.CapServer

/-- `CAP_NET_BIND_SERVICE`. -/
def capNetBindService : Int32 := 10

structure CapabilitySets where
  effective : Finset Int32
  permitted : Finset Int32
  inheritable : Finset Int32
  deriving DecidableEq

def CapabilitySets.empty : CapabilitySets := ⟨∅, ∅, ∅⟩

/-- A `cap_t` with the sets of the object behind it. No two variables of `main` share an
object, so each carries its own. -/
structure Handle where
  address : UInt64
  sets : CapabilitySets

/-- `CAP_SET` of one capability, in the effective or in the permitted set. -/
def Handle.setEffective (cap : Handle) (capability : Int32) : Handle :=
  { cap with sets := { cap.sets with effective := insert capability cap.sets.effective } }

def Handle.setPermitted (cap : Handle) (capability : Int32) : Handle :=
  { cap with sets := { cap.sets with permitted := insert capability cap.sets.permitted } }

/-- What the calls of `main` return, in the order of the code: a `cap_t` or a null pointer, a
success or not, the user ids. Objects that were allocated are distinct. -/
structure Calls where
  capInit : UInt64
  capDupOff : UInt64
  capSetFlagOff : Bool
  capDupOn : UInt64
  capSetFlagOn : Bool
  capSetProcOn : Bool
  socket : Bool
  getresuid : Option (Credentials UInt32)
  bind : Bool
  capSetProcClear : Bool
  capFreeOn : Bool
  capFreeClear : Bool
  listen : Bool
  distinctOff : capDupOff ≠ 0 → capDupOff ≠ capInit
  distinctOn : capDupOn ≠ 0 → capDupOn ≠ capInit ∧ capDupOn ≠ capDupOff

/-- What happens to the capability objects, the capability sets of the thread and the socket. -/
inductive Event where
  | returned (cap : UInt64)
  | setProc (sets : CapabilitySets)
  | bound (sinPort : UInt16)
  | freed (cap : UInt64)
  | listen
  deriving DecidableEq

inductive Ending where
  | exitFailure (message : String)
  | listening
  deriving DecidableEq

/-- The result of `cap_init` or `cap_dup`, unless it is a null pointer. -/
def created (cap : Handle) : List Event :=
  if cap.address = 0 then [] else [.returned cap.address]

/-- The block under `if (port_number < 1024)`, which leaves `privilege_on`. The calls of the
library refuse a null pointer. -/
def raise (calls : Calls) (privilegeOff : Handle) : List Event × Except String Handle :=
  if privilegeOff.address = 0 ∨ calls.capSetFlagOff = false then ([], .error "cap_set_flag()")
  else
    let privilegeOff := privilegeOff.setPermitted capNetBindService
    let privilegeOn : Handle := ⟨calls.capDupOn, privilegeOff.sets⟩
    if privilegeOn.address = 0 ∨ calls.capSetFlagOn = false then
      (created privilegeOn, .error "cap_set_flag()")
    else
      let privilegeOn := privilegeOn.setEffective capNetBindService
      if calls.capSetProcOn = false then (created privilegeOn, .error "cap_set_proc()")
      else (created privilegeOn ++ [.setProc privilegeOn.sets], .ok privilegeOn)

/-- From `socket` to `listen`. -/
def bindAndDrop (portNumber : UInt32) (calls : Calls) (privilegeClear privilegeOn : Handle) :
    List Event × Ending :=
  if calls.socket = false then ([], .exitFailure "socket()")
  else match calls.getresuid with
    | none => ([], .exitFailure "getresgid()")
    | some ids =>
        let bound := [.bound portNumber.toUInt16]
        let dropped := bound ++ [.setProc privilegeClear.sets]
        let freed := dropped ++ [.freed privilegeOn.address, .freed privilegeClear.address]
        if calls.bind = false then ([], .exitFailure "bind()")
        else if privilegeClear.address = 0 ∨ calls.capSetProcClear = false then
          (bound, .exitFailure "cap_set_proc()")
        else if calls.capFreeOn = false then
          (dropped ++ [.freed privilegeOn.address], .exitFailure "cap_free()")
        else if calls.capFreeClear = false then (freed, .exitFailure "cap_free()")
        else if ids.effective = 0 ∨ ids.saved = 0 then
          (freed, .exitFailure "Run server as unprivileged user!\n")
        else if calls.listen = false then (freed ++ [.listen], .exitFailure "listen()")
        else (freed ++ [.listen], .listening)

/-- `main` from the port on. `privilegeOn` is what the variable holds before anything is
assigned to it. -/
def serve (port : Int32) (calls : Calls) (privilegeOn : Handle) : List Event × Ending :=
  let portNumber := port.toUInt32
  let privilegeClear : Handle := ⟨calls.capInit, .empty⟩
  let privilegeOff : Handle := ⟨calls.capDupOff, privilegeClear.sets⟩
  let copies := created privilegeClear ++ created privilegeOff
  if portNumber < 1024 then
    match raise calls privilegeOff with
    | (raised, .error message) => (copies ++ raised, .exitFailure message)
    | (raised, .ok privilegeOn) =>
        let rest := bindAndDrop portNumber calls privilegeClear privilegeOn
        (copies ++ raised ++ rest.1, rest.2)
  else
    let rest := bindAndDrop portNumber calls privilegeClear privilegeOn
    (copies ++ rest.1, rest.2)

def main (argv : List CString) (calls : Calls) (privilegeOn : Handle) : List Event × Ending :=
  match argv with
  | [_, port] => serve (atoi port) calls privilegeOn
  | _ => ([], .exitFailure "Invocation: %s <PORT>\n")

end NetworkServices.CapServer
