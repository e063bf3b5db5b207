import NetworkServices.Foundation.Capabilities
import NetworkServices.Foundation.Interaction
import NetworkServices.Privileges.CapServer
import NetworkServices.Privileges.RootServer

/-! The system calls of `rootserver.c`, `fserver.c` and `capserver.c`, and the kernel that answers
them: the privileges of the process, the ports it has bound, and its capability objects. -/

set_option autoImplicit false

namespace NetworkServices.PrivilegedServers

open CapServer (CapabilitySets capNetBindService)
open RootServer (capSetuid)

inductive Stream where
  | stdout
  | stderr
  deriving DecidableEq

/-- The last argument but one of `cap_set_flag`, which is always called to set
`CAP_NET_BIND_SERVICE`. -/
inductive Flag where
  | CAP_PERMITTED
  | CAP_EFFECTIVE
  deriving DecidableEq

/-- The port of `bind` is the number in `sin_port`, and 0 leaves the choice to the kernel. A `cap_t`
is an address, and 0 the null pointer. -/
inductive Call where
  | fprintf (stream : Stream) (text : CString)
  | perror (text : CString)
  | geteuid
  | getresuid
  | setuid (uid : UInt32)
  | cap_init
  | cap_dup (cap_p : UInt64)
  | cap_set_flag (cap_p : UInt64) (flag : Flag)
  | cap_set_proc (cap_p : UInt64)
  | cap_free (obj_d : UInt64)
  | socket
  | bind (sockfd : Nat) (sin_port : UInt16)
  | listen (sockfd : Nat)
  | accept (sockfd : Nat)
  | sleep (seconds : Nat)
  | close (fd : Nat)

/-- The address of a client as it is printed. -/
structure Peer where
  address : CString
  port : UInt16

/-- What the calls return: a success or not where nothing else is looked at. The port that
`bind` has bound is not shown to the program. -/
abbrev Answer : Call → Type
  | .fprintf _ _ | .perror _ | .sleep _ | .close _ => Unit
  | .geteuid => UInt32
  | .getresuid => Option (Credentials UInt32)
  | .cap_init | .cap_dup _ => UInt64
  | .setuid _ | .cap_set_flag _ _ | .cap_set_proc _ | .cap_free _ | .listen _ => Bool
  | .bind _ _ => Option UInt16
  | .socket => Option Nat
  | .accept _ => Option (Nat × Peer)

abbrev Process := Program Call Answer

structure World where
  privileges : Privileges UInt32 Int32
  /-- The capability objects. -/
  objects : UInt64 → Option CapabilitySets
  /-- The open descriptors of the process. -/
  descriptors : List Nat
  bound : List (Nat × UInt16)
  listening : List Nat

/-- The ids after `setuid`. -/
def World.setuid (world : World) (uid : UInt32) : Option (Privileges UInt32 Int32) :=
  world.privileges.perform 0 capSetuid (.credentials (.setuid uid))

def World.capset (world : World) (sets : CapabilitySets) : Option (Privileges UInt32 Int32) :=
  world.privileges.perform 0 capSetuid (.capset sets.permitted sets.effective)

def setFlag (sets : CapabilitySets) : Flag → CapabilitySets
  | .CAP_PERMITTED => { sets with permitted := insert capNetBindService sets.permitted }
  | .CAP_EFFECTIVE => { sets with effective := insert capNetBindService sets.effective }

def World.store (world : World) (cap : UInt64) (sets : Option CapabilitySets) : World :=
  { world with objects := fun other => if other = cap then sets else world.objects other }

/-- The port that is bound for a number in `sin_port`, an ephemeral one for 0. -/
def Chosen (sin_port port : UInt16) : Prop :=
  if sin_port = 0 then 1024 ≤ port else port = sin_port

/-- The kernel and the library for capabilities. A call may fail for reasons of its own. A port
below 1024 is bound with the capability only, and a new object is none of the old ones. -/
def interface : Interface Call Answer World where
  may _ _ := True
  promise world request := match request with
    | .geteuid => fun euid => euid = world.privileges.ids.effective
    | .getresuid => fun answer => ∀ ids ∈ answer, ids = world.privileges.ids
    | .setuid uid => fun succeeded => succeeded = true → (world.setuid uid).isSome
    | .cap_init => fun cap => cap ≠ 0 → world.objects cap = none
    | .cap_dup cap_p => fun cap => cap ≠ 0 → world.objects cap = none ∧ (world.objects cap_p).isSome
    | .cap_set_flag cap_p _ => fun succeeded => succeeded = true → (world.objects cap_p).isSome
    | .cap_set_proc cap_p => fun succeeded =>
        succeeded = true → ((world.objects cap_p).bind world.capset).isSome
    | .socket => fun answer => ∀ fd ∈ answer, fd ∉ world.descriptors
    | .bind sockfd sin_port => fun answer => ∀ port ∈ answer, sockfd ∈ world.descriptors ∧
        Chosen sin_port port ∧ (port < 1024 → capNetBindService ∈ world.privileges.effective)
    | .accept _ => fun answer => ∀ connection ∈ answer, connection.1 ∉ world.descriptors
    | _ => fun _ => True
  after world request := match request with
    | .setuid uid => fun succeeded =>
        { world with privileges :=
            if succeeded then (world.setuid uid).getD world.privileges else world.privileges }
    | .cap_init => fun cap => if cap = 0 then world else world.store cap (some .empty)
    | .cap_dup cap_p => fun cap => if cap = 0 then world else world.store cap (world.objects cap_p)
    | .cap_set_flag cap_p flag => fun succeeded =>
        if succeeded then world.store cap_p ((world.objects cap_p).map (setFlag · flag)) else world
    | .cap_set_proc cap_p => fun succeeded =>
        { world with privileges :=
            if succeeded then ((world.objects cap_p).bind world.capset).getD world.privileges
            else world.privileges }
    | .cap_free obj_d => fun succeeded => if succeeded then world.store obj_d none else world
    | .socket => fun answer =>
        { world with descriptors := answer.toList ++ world.descriptors }
    | .bind sockfd _ => fun answer =>
        { world with bound := world.bound ++ (answer.map fun port => (sockfd, port)).toList }
    | .listen sockfd => fun succeeded =>
        if succeeded then { world with listening := world.listening ++ [sockfd] } else world
    | .accept _ => fun answer =>
        { world with descriptors := (answer.map Prod.fst).toList ++ world.descriptors }
    | .close fd => fun _ => { world with descriptors := world.descriptors.erase fd }
    | _ => fun _ => world

end NetworkServices.PrivilegedServers
