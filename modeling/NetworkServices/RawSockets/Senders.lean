import NetworkServices.Foundation.Interaction
import NetworkServices.RawSockets.Ping
import NetworkServices.RawSockets.Tcp
import NetworkServices.RawSockets.Udpv6

/-! The programs `tcp.c`, `udpv6.c` and `ping.cpp` with the calls they make. All three look for an
address for which there is a socket, and set an option of that socket. -/

set_option autoImplicit false

namespace NetworkServices.RawSockets

/-- What `getaddrinfo` and `socket` are asked for. -/
structure Hints where
  ai_family : Int32
  ai_socktype : Int32
  ai_protocol : Int32
  deriving DecidableEq

structure Addrinfo (Address : Type) where
  hints : Hints
  ai_addr : Address

inductive SocketOption where
  | IP_HDRINCL (socket_option : Int32)
  | IPV6_CHECKSUM (offset : Int32)
  | IP_TTL (ttl : Int32)
  deriving DecidableEq

/-- `showReply` stands for the lines of one reply. What a checksum whose sum does not fit into an
`int` comes to is not known, which is what an `overflow` says. -/
inductive Call (Address : Type) where
  | printf (text : CString)
  | eprintf (text : CString)
  | perror (text : CString)
  | errno
  | getaddrinfo (node : CString) (hints : Hints)
  | socket (hints : Hints)
  | setsockopt (sockfd : Nat) (option : SocketOption)
  | sendto (sockfd : Nat) (datagram : List UInt8) (dest_addr : Address)
  | recvfrom (sockfd size : Nat)
  | showReply (shown : Ping.Shown)
  | sleep (seconds : Nat)
  | fork
  | getpid
  | overflow

/-- The list of `getaddrinfo` is the one in `result`. -/
abbrev Answer {Address : Type} : Call Address → Type
  | .printf _ | .eprintf _ | .perror _ | .showReply _ | .sleep _ => Unit
  | .errno | .sendto _ _ _ | .fork | .getpid => Int32
  | .getaddrinfo _ _ => Int32 × List (Addrinfo Address)
  | .socket _ => Option Nat
  | .setsockopt _ _ => Bool
  | .recvfrom _ _ => Option (List UInt8)
  | .overflow => Empty

abbrev Process (Address : Type) := Program (Call Address) Answer

/-- The process, what `fork` has returned to it, the sockets that were asked for, their options,
the calls of `sendto` with what they returned, the packets that were sent, and what was received
and shown. -/
structure World (Address : Type) where
  pid : Int32 := 0
  forked : Option Int32 := none
  listed : List (Addrinfo Address) := []
  attempts : List (Hints × Option Nat) := []
  options : List (Nat × SocketOption) := []
  calls : List ((Nat × List UInt8 × Address) × Int32) := []
  sent : List (Nat × List UInt8 × Address) := []
  received : List (Option (List UInt8)) := []
  shown : List Ping.Shown := []

variable {Address : Type}

/-- The kernel and the resolver, which leaves `result` a null pointer where it fails. -/
def kernel (Address : Type) : Interface (Call Address) Answer (World Address) where
  may _ _ := True
  promise world request := match request with
    | .getaddrinfo _ _ => fun answer => answer.1 ≠ 0 → answer.2 = []
    | .sendto _ _ _ => fun retval => -1 ≤ retval
    | .getpid => fun pid => pid = world.pid
    | _ => fun _ => True
  after world request := match request with
    | .getaddrinfo _ _ => fun answer => { world with listed := answer.2 }
    | .socket hints => fun answer =>
        { world with attempts := world.attempts ++ [(hints, answer)] }
    | .setsockopt sockfd option => fun succeeded =>
        if succeeded then { world with options := world.options ++ [(sockfd, option)] } else world
    | .sendto sockfd datagram dest_addr => fun retval =>
        { world with
          calls := world.calls ++ [((sockfd, datagram, dest_addr), retval)]
          sent := if retval = -1 then world.sent
            else world.sent ++ [(sockfd, datagram, dest_addr)] }
    | .recvfrom _ _ => fun packet => { world with received := world.received ++ [packet] }
    | .showReply shown => fun _ => { world with shown := world.shown ++ [shown] }
    | .fork => fun answer => { world with forked := some answer }
    | _ => fun _ => world

def printf (text : String) : Process Address Unit :=
  .invoke (Call.printf (ascii text))

/-- A line with the value of `errno`, and the one of `perror`. -/
def complain (text : String) : Process Address Unit := do
  let errno ← .invoke Call.errno
  .invoke (Call.printf (ascii text ++ ascii "\n\terrno: " ++ signedDecimal errno ++ ascii "\n"))
  .invoke (Call.perror [])

/-- The loop over the addresses, with what is said when there is no socket for one, when its
option is refused, when it is set, and when there is no address left. -/
def openSocket (option : SocketOption) (refused rejected created exhausted : Process Address Unit) :
    List (Addrinfo Address) → Process Address (Nat × Addrinfo Address)
  | [] => do
      exhausted
      .exit .failure
  | rp :: rest => do
      match ← .invoke (Call.socket rp.hints) with
      | none => do
          refused
          openSocket option refused rejected created exhausted rest
      | some sockfd => do
          if ← .invoke (Call.setsockopt sockfd option) then do
            created
            return (sockfd, rp)
          else do
            rejected
            .exit .failure

def report (retval : Int32) : Process Address Unit :=
  if retval = -1 then complain "Sendto error" else printf "Packet sent\n"

/-- The body of the last loop, which is the same in `tcp.c` and in `udpv6.c`. -/
def sendPass (sockfd : Nat) (datagram : List UInt8) (dest_addr : Address) :
    Process Address (Unit ⊕ Unit) := do
  let retval ← .invoke (Call.sendto sockfd datagram dest_addr)
  report retval
  .invoke (Call.sleep 1)
  return .inl ()

def orOverflow {Result : Type} : Option Result → Process Address Result
  | some result => pure result
  | none => do
      let overflow ← .invoke Call.overflow
      nomatch overflow

def SOCK_RAW : Int32 := 3

namespace Tcp

def openSocket : List (Addrinfo Address) → Process Address (Nat × Addrinfo Address) :=
  RawSockets.openSocket (.IP_HDRINCL 1) (complain "Socket error") (complain "Setsockopt error")
    (pure ()) (complain "Error while creating socket")

/-- `main` of `tcp.c`. An address is the `sin_addr` of `rp->ai_addr`. -/
def main (order : ByteOrder) (argv : List CString) (passes : Nat) : Process InAddr Unit :=
  match argv with
  | [_, node, port] => do
      let (retval, result) ← .invoke (Call.getaddrinfo node ⟨2, SOCK_RAW, 6⟩)
      if retval < 0 then do
        complain "Getaddinfo error"
        .exit .failure
      else do
        let (sockfd, rp) ← openSocket result
        printf "Sending...\n\n"
        let datagram ← orOverflow (sent order rp.ai_addr port)
        .loop (fun _ => sendPass sockfd datagram rp.ai_addr) passes ()
  | _ => do
      printf "Bad number of arguments\n\t<IP ADDR> <PORT>\n"
      .exit .failure

end Tcp

namespace Udpv6

def creating_and_setting_socket :
    List (Addrinfo Address) → Process Address (Nat × Addrinfo Address) :=
  openSocket (.IPV6_CHECKSUM 6) (complain "Socket error") (complain "Setsocketopt error")
    (printf "Socket created\n") (complain "Socket error")

/-- `main` of `udpv6.c`. -/
def main (order : ByteOrder) (argv : List CString) (passes : Nat) : Process SockaddrIn6 Unit :=
  match argv with
  | [_, node, port] => do
      let (retval, result) ← .invoke (Call.getaddrinfo node ⟨10, SOCK_RAW, 17⟩)
      if retval ≠ 0 then do
        complain "Getaddrinfo error"
        .exit .failure
      else do
        let (sockfd, rp) ← creating_and_setting_socket result
        let datagram ← orOverflow (sent order rp.ai_addr port)
        printf "Sending empty packet...\n"
        .loop (fun _ => sendPass sockfd datagram rp.ai_addr) passes ()
  | _ => do
      printf "Bad number of arguments\n\t<IPv6> <PORT>\n"
      .exit .failure

end Udpv6

namespace Ping

def openSocket : List (Addrinfo Address) → Process Address (Nat × Addrinfo Address) :=
  RawSockets.openSocket (.IP_TTL 128) (.invoke (Call.perror (ascii "socket()")))
    (.invoke (Call.perror (ascii "setsockopt()"))) (pure ())
    (.invoke (Call.eprintf (ascii "Client failure: could not create socket.\n")))

/-- The loop of `mainProcess`, with the passes that are left. -/
def sendRequests (order : ByteOrder) (draws : Nat → Nat → Draw) (socketDescriptor : Nat)
    (ai_addr : Address) : Nat → Nat → Datagram → Process Address Unit
  | 0, _, _ => .exit .success
  | passes + 1, i, datagram => do
      let pid ← .invoke Call.getpid
      let datagram ← orOverflow (fill order pid (draws i) i datagram)
      let sent ← .invoke (Call.sendto socketDescriptor (datagram.bytes order) ai_addr)
      if sent < 0 then do
        .invoke (Call.perror (ascii "sendto() "))
        .exit .failure
      else do
        printf "Packet has been sent \n"
        .invoke (Call.sleep 1)
        sendRequests order draws socketDescriptor ai_addr passes (i + 1) datagram

/-- The loop of `childProcess`, with the passes that are left. -/
def showReplies (order : ByteOrder) (socketDescriptor : Nat) :
    Nat → Buffer 40 → Process Address Unit
  | 0, _ => .exit .success
  | passes + 1, datagram => do
      let packet ← .invoke (Call.recvfrom socketDescriptor 40)
      let datagram := recvfrom datagram packet
      .invoke (Call.showReply (shown order datagram.bytes))
      showReplies order socketDescriptor passes datagram

def failToFork : Process Address Unit := do
  .invoke (Call.eprintf (ascii "Fork error! \n"))
  .invoke (Call.perror [])
  .exit .failure

/-- `main` of `ping.cpp` in either process. The two arrays have no values at first. -/
def main (order : ByteOrder) (draws : Nat → Nat → Draw) (request : Datagram) (reply : Buffer 40)
    (argv : List CString) : Process Address Unit :=
  match argv with
  | [_, node] => do
      let (retval, result) ← .invoke (Call.getaddrinfo node ⟨2, SOCK_RAW, 1⟩)
      if retval ≠ 0 then failToFork
      else do
        let (socketDescriptor, rp) ← openSocket result
        let ppid ← .invoke Call.fork
        if ppid = 0 then do
          printf "Main process working...\n\n"
          sendRequests order draws socketDescriptor rp.ai_addr 4 1 request
        else if ppid > 0 then do
          printf "Child process working...\n\n"
          showReplies order socketDescriptor 4 reply
        else failToFork
  | _ => do
      .invoke (Call.eprintf (ascii "Propper invocation: ./ping <targetHostName/IpAdrress>\n"))
      .exit .failure

end Ping

end NetworkServices.RawSockets
