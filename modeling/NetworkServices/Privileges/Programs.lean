import NetworkServices.Privileges.Kernel

/-! The programs `rootserver.c`, `fserver.c` and `capserver.c` with the calls they make. From
`listen` on the three files have the same text. -/

set_option autoImplicit false

namespace NetworkServices.PrivilegedServers

def fprintf (stream : Stream) (text : CString) : Process Unit :=
  .invoke (Call.fprintf stream text)

def failWithPerror {Result : Type} (text : CString) : Process Result := do
  .invoke (Call.perror text)
  .exit .failure

def failSaying {Result : Type} (text : CString) : Process Result := do
  fprintf .stderr text
  .exit .failure

/-- `if (retval == -1) { perror(…); exit(EXIT_FAILURE); }` -/
def orFail (succeeded : Bool) (text : CString) : Process Unit :=
  if succeeded then pure () else failWithPerror text

def orNone {Result : Type} (answer : Option Result) (text : CString) : Process Result :=
  match answer with
  | some result => pure result
  | none => failWithPerror text

/-- The user ids, and the line that shows them. -/
def showIds : Process (Credentials UInt32) := do
  let ids ← orNone (← .invoke Call.getresuid) (ascii "getresgid()")
  fprintf .stdout (ascii "UID: " ++ decimal ids.real.toNat ++ ascii ", EUID: " ++
    decimal ids.effective.toNat ++ ascii ", SUID: " ++ decimal ids.saved.toNat ++ ascii "\n")
  return ids

def openSocket : Process Nat := do
  orNone (← .invoke Call.socket) (ascii "socket()")

def bindPort (listenfd : Nat) (port_number : UInt32) : Process Unit := do
  fprintf .stdout (ascii "Binding to port " ++ decimal port_number.toNat ++ ascii "...\n")
  let answer ← .invoke (Call.bind listenfd port_number.toUInt16)
  orFail answer.isSome (ascii "bind()")

def requireUnprivileged (ids : Credentials UInt32) : Process Unit :=
  if ids.effective = 0 ∨ ids.saved = 0 then
    failSaying (ascii "Run server as unprivileged user!\n")
  else pure ()

/-- From `accept` on. -/
def acceptOne (listenfd : Nat) : Process Unit := do
  let (connfd, peer) ← orNone (← .invoke (Call.accept listenfd)) (ascii "accept()")
  fprintf .stdout (ascii "TCP connection accepted from " ++ peer.address ++ ascii ":" ++
    decimal peer.port.toNat ++ ascii "\n")
  .invoke (Call.sleep 5)
  fprintf .stdout (ascii "Closing connected socket (sending FIN to client)...\n")
  .invoke (Call.close connfd)
  .invoke (Call.close listenfd)
  .exit .success

def listenAndAccept (listenfd : Nat) : Process Unit := do
  orFail (← .invoke (Call.listen listenfd)) (ascii "listen()")
  fprintf .stdout (ascii "Server is listening for incoming connection...\n")
  acceptOne listenfd

def invocation (argv : List CString) (arguments : CString) : CString :=
  ascii "Invocation: " ++ argv.headD [] ++ arguments ++ ascii "\n"

/-- `main` of `fserver.c`. -/
def fserver (argv : List CString) : Process Unit :=
  match argv with
  | [_, port] => do
      let port_number := (atoi port).toUInt32
      let listenfd ← openSocket
      let _ ← showIds
      bindPort listenfd port_number
      let ids ← showIds
      requireUnprivileged ids
      listenAndAccept listenfd
  | _ => failSaying (invocation argv (ascii " <PORT>"))

/-- What `rootserver.c` asks for before it binds a well-known port. -/
def requireRoot (port_number : UInt32) : Process Unit :=
  if port_number < 1024 then do
    let euid ← .invoke Call.geteuid
    if euid ≠ 0 then
      failSaying (ascii "You need root privileges to bind to well-known port (<1024).\n")
    else pure ()
  else pure ()

/-- `main` of `rootserver.c`. The result of `setuid` is not looked at. -/
def rootserver (argv : List CString) : Process Unit :=
  match argv with
  | [_, port, uid] => do
      let port_number := (atoi port).toUInt32
      let uid := atoi uid
      requireRoot port_number
      let listenfd ← openSocket
      let _ ← showIds
      bindPort listenfd port_number
      let _ ← .invoke (Call.setuid uid.toUInt32)
      let ids ← showIds
      requireUnprivileged ids
      listenAndAccept listenfd
  | _ => failSaying (invocation argv (ascii " <PORT> <UID>"))

/-- The block under `if (port_number < 1024)`, which leaves `privilege_on`. -/
def raisePrivilege (privilege_off : UInt64) : Process UInt64 := do
  orFail (← .invoke (Call.cap_set_flag privilege_off .CAP_PERMITTED)) (ascii "cap_set_flag()")
  let privilege_on ← .invoke (Call.cap_dup privilege_off)
  orFail (← .invoke (Call.cap_set_flag privilege_on .CAP_EFFECTIVE)) (ascii "cap_set_flag()")
  orFail (← .invoke (Call.cap_set_proc privilege_on)) (ascii "cap_set_proc()")
  return privilege_on

def freeCapabilities (privilege_on privilege_clear : UInt64) : Process Unit := do
  let freed ← .invoke (Call.cap_free privilege_on)
  if freed then
    orFail (← .invoke (Call.cap_free privilege_clear)) (ascii "cap_free()")
  else failWithPerror (ascii "cap_free()")

/-- `capserver.c` from `socket` on. The user ids are those in front of `bind`. -/
def bindAndDrop (port_number : UInt32) (privilege_clear privilege_on : UInt64) : Process Unit := do
  let listenfd ← openSocket
  let ids ← showIds
  bindPort listenfd port_number
  orFail (← .invoke (Call.cap_set_proc privilege_clear)) (ascii "cap_set_proc()")
  freeCapabilities privilege_on privilege_clear
  requireUnprivileged ids
  listenAndAccept listenfd

/-- `main` of `capserver.c`, with the value that `privilege_on` has before it gets one. -/
def capserver (argv : List CString) (privilege_on : UInt64) : Process Unit :=
  match argv with
  | [_, port] => do
      let port_number := (atoi port).toUInt32
      let privilege_clear ← .invoke Call.cap_init
      let privilege_off ← .invoke (Call.cap_dup privilege_clear)
      if port_number < 1024 then do
        let privilege_on ← raisePrivilege privilege_off
        bindAndDrop port_number privilege_clear privilege_on
      else bindAndDrop port_number privilege_clear privilege_on
  | _ => failSaying (invocation argv (ascii " <PORT>"))

end NetworkServices.PrivilegedServers
