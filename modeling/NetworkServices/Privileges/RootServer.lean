import NetworkServices.Foundation.Capabilities
import NetworkServices.Foundation.CString

/-! The server `rootserver.c`, which binds a port and gives up its privileges
before it listens. -/

set_option autoImplicit false

namespace NetworkServices.RootServer

/-- Which of the calls `main` makes before `listen` succeed. -/
structure Calls where
  socket : Bool
  getresuid : Bool
  bind : Bool
  setuid : Bool
  getresuidAfter : Bool

/-- `CAP_SETUID`. -/
def capSetuid : Int32 := 7

/-- The calls in which the port and a privilege meet. -/
inductive Event where
  | geteuid (euid : UInt32)
  | bind (sinPort : UInt16)
  deriving DecidableEq

/-- How far `main` gets: an exit with its diagnostic, or the call of `listen` with
the port in `sin_port` and the privileges of the process. -/
inductive Outcome where
  | exitFailure (message : String)
  | listening (sinPort : UInt16) (process : Privileges UInt32 Int32)
  deriving DecidableEq

/-- `setuid(uid)`. Its result is not looked at, and it may fail for reasons other
than a missing privilege. -/
def afterSetuid (process : Privileges UInt32 Int32) (uid : UInt32) (succeeds : Bool) :
    Privileges UInt32 Int32 :=
  if succeeds then
    (process.perform 0 capSetuid (.credentials (.setuid uid))).getD process
  else process

def serve (port uid : Int32) (process : Privileges UInt32 Int32) (calls : Calls) :
    List Event × Outcome :=
  let portNumber := port.toUInt32
  let asked := if portNumber < 1024 then [.geteuid process.ids.effective] else []
  if portNumber < 1024 ∧ process.ids.effective ≠ 0 then
    (asked, .exitFailure "You need root privileges to bind to well-known port (<1024).\n")
  else if calls.socket = false then (asked, .exitFailure "socket()")
  else if calls.getresuid = false then (asked, .exitFailure "getresgid()")
  else
    let bound := asked ++ [.bind portNumber.toUInt16]
    if calls.bind = false then (bound, .exitFailure "bind()")
    else
      let process := afterSetuid process uid.toUInt32 calls.setuid
      if calls.getresuidAfter = false then (bound, .exitFailure "getresgid()")
      else if process.ids.effective = 0 ∨ process.ids.saved = 0 then
        (bound, .exitFailure "Run server as unprivileged user!\n")
      else (bound, .listening portNumber.toUInt16 process)

def main (argv : List CString) (process : Privileges UInt32 Int32) (calls : Calls) :
    List Event × Outcome :=
  match argv with
  | [_, port, uid] => serve (atoi port) (atoi uid) process calls
  | _ => ([], .exitFailure "Invocation: %s <PORT> <UID>\n")

end NetworkServices.RootServer
