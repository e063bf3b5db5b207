import NetworkServices.Foundation.TextInput
import NetworkServices.Greeting.Kernel

/-! The programs of the greeting service: the servers `server4.c` and `server6.cpp`, and the clients
`client4.cpp`, `client.cpp` and `client6.c`. -/

set_option autoImplicit false

namespace NetworkServices.Greeting

def print (stream : Stream) (text : String) : Process Unit :=
  .invoke (Call.print stream (ascii text))

/-- The way the C programs fail: a line, and the one of `perror`. -/
def failWithPerror {Result : Type} (text : String) : Process Result := do
  print .stdout text
  .invoke Call.perror
  .exit .failure

/-- The way the C++ programs fail. -/
def failWithErrno {Result : Type} (text : String) : Process Result := do
  print .stderr text
  let errno ← .invoke Call.errno
  .invoke (Call.print .stderr (ascii "errno: " ++ signedDecimal errno))
  .exit .failure

def sinPort (port : CString) : UInt16 :=
  (atoi port).toUInt32.toUInt16

namespace Server4

/-- One pass of the loop in `sending_response`. What `send` returns is not looked at. -/
def pass (socket_server : Nat) : Process (Unit ⊕ Unit) := do
  let (new_socket, client_ip) ← .invoke (Call.accept socket_server)
  match new_socket with
  | none => failWithPerror "SERVER: Accept error\n"
  | some new_socket => do
      .invoke (Call.print .stdout (ascii "SERVER: Connection established\nADRES IPv4: " ++
        client_ip.address ++ ascii "\nCLIENT PORT: " ++ decimal client_ip.port.toNat ++
          ascii "\n"))
      let _ ← .invoke (Call.send new_socket msg)
      .invoke (Call.close (some new_socket))
      return .inl ()

def main (argv : List CString) (passes : Nat) : Process Unit :=
  match argv with
  | [_, port] => do
      match ← .invoke Call.socket with
      | none => failWithPerror "SERVER: Socket error\n"
      | some socket_server => do
          if ← .invoke (Call.bind socket_server (sinPort port)) then do
            print .stdout "SERVER: Waiting...\n"
            if ← .invoke (Call.listen socket_server) then
              .loop (fun _ => pass socket_server) passes ()
            else failWithPerror "SERVER: Listening error\n"
          else failWithPerror "SERVER: Binding error\n"
  | _ => do
      print .stdout "SERVER: Bad number of arguments\n"
      print .stdout "SERVER: Correct: <PORT>\n"
      .exit .failure

end Server4

namespace Server6

/-- `main` behind `inet_ntop`. -/
def greet (clientSocketDescriptor : Nat) (clientSocketAddress : Peer) :
    Process (Unit ⊕ Unit) := do
  .invoke (Call.print .stderr (ascii "Client IP address: " ++ clientSocketAddress.address ++
    ascii " Port number: " ++ decimal clientSocketAddress.port.toNat ++ ascii "\n"))
  print .stdout (if clientSocketAddress.v4mapped then "Client: IP ver. 4\n"
    else "Client: IP ver. 6\n")
  let written ← .invoke (Call.send clientSocketDescriptor msg)
  if written ≤ 0 then failWithErrno "Socket write error!\n"
  else do
    .invoke (Call.close (some clientSocketDescriptor))
    return .inl ()

/-- One pass of the loop in `main`. In its condition the comparison comes first, so what is
assigned is whether `accept` failed. A fault ends the process by a signal, which to the clients is
an exit. -/
def pass (socketDescriptor : Nat) : Process (Unit ⊕ Unit) := do
  let (accepted, clientSocketAddress) ← .invoke (Call.accept socketDescriptor)
  let clientSocketDescriptor := if accepted = none then 1 else 0
  if clientSocketDescriptor ≠ 0 then failWithErrno "Socket accept error!\n"
  else do
    let ipAddressCString ← .invoke Call.inet_ntop
    match ipAddressCString with
    | .spare => greet clientSocketDescriptor clientSocketAddress
    | .fault => .exit .failure
    | .used => do
        let overrun ← .invoke Call.overrun
        nomatch overrun

def main (argv : List CString) (passes : Nat) : Process Unit :=
  match argv with
  | [_, portNumber] => do
      match ← .invoke Call.socket with
      | none => failWithErrno "Socket creation error!\n"
      | some socketDescriptor => do
          if ← .invoke (Call.bind socketDescriptor (sinPort portNumber)) then
            if ← .invoke (Call.listen socketDescriptor) then
              .loop (fun _ => pass socketDescriptor) passes ()
            else failWithErrno "Socket listen error!\n"
          else failWithErrno "Socket binding error!\n"
  | _ => do
      print .stderr "Wrong arguments number!\n"
      print .stderr "Propper invocation: \n./serv6 port_number \n"
      .exit .failure

end Server6

/-- The text in a zeroed array of `size` bytes after `recv`. Without a NUL byte it would not end
in there. -/
def received (size : Nat) (bytes : Option (List UInt8)) : Option CString :=
  let message := (Buffer.zeroed size).receive (bytes.getD [])
  if 0 ∈ message.bytes then some (cString message.bytes) else none

/-- `memset`, `recv`, and the line with the message. -/
def showReceived (sockfd : Option Nat) (size : Nat) (label : String) : Process Unit := do
  let bytes ← .invoke (Call.recv sockfd size)
  match received size bytes with
  | some text => .invoke (Call.showMessage (ascii label) text)
  | none => do
      let overrun ← .invoke Call.overrun
      nomatch overrun

def failToConnect : Process Unit := do
  print .stderr "Socket connect error!\n"
  .invoke Call.perror
  let errno ← .invoke Call.errno
  .invoke (Call.print .stderr (ascii "errno: " ++ signedDecimal errno))
  .exit .failure

def wrongArguments : Process Unit := do
  print .stderr "Wrong arguments number!\n"
  print .stderr "Propper invocation: \n./client4 port_number "
  .exit .failure

/-- `main` of `client4.cpp`. -/
def client4 (argv : List CString) : Process Unit :=
  match argv with
  | [_, _, _] => do
      match ← .invoke Call.socket with
      | none => failWithErrno "Socket creation error!\n"
      | some socketDescriptor => do
          if ← .invoke (Call.connect (some socketDescriptor)) then do
            showReceived (some socketDescriptor) 512 "Message from server: "
            .invoke (Call.close (some socketDescriptor))
            .exit .success
          else failToConnect
  | _ => wrongArguments

def AF_INET : Int32 := 2

def AF_INET6 : Int32 := 10

/-- `client.cpp` from `socket` on. What `socket` returns is not looked at. -/
def connectAndShow : Process Unit := do
  let socketDescriptor ← .invoke Call.socket
  if ← .invoke (Call.connect socketDescriptor) then do
    let (IPAddress, portNumber) ← .invoke (Call.getnameinfo socketDescriptor)
    .invoke (Call.print .stdout (ascii "Server IP Address: " ++ IPAddress ++
      ascii " server port number: " ++ portNumber))
    showReceived socketDescriptor 512 "\nMessage from server: "
    print .stdout "\n"
    .invoke (Call.close socketDescriptor)
    .exit .success
  else failToConnect

/-- `main` of `client.cpp`. -/
def client (argv : List CString) : Process Unit :=
  match argv with
  | [_, node, service] => do
      match ← .invoke (Call.getaddrinfo node service) with
      | none => failWithErrno "Socket creation error!\n"
      | some ai_family => do
          if ai_family = AF_INET then do
            print .stdout "IPv4 socket family\n"
            connectAndShow
          else if ai_family = AF_INET6 then do
            print .stdout "IPv6 socket family\n"
            connectAndShow
          else do
            print .stderr "Unknown socket family\n"
            .exit .failure
  | _ => wrongArguments

/-- What `sscanf(text, "%s", word)` stores in an array of `size` bytes, which is zero at the
start. Its conversion knows no size. -/
def scanWord (size : Nat) (text : CString) : Process CString :=
  let word := (scanWords 1 text).headD []
  if word.length < size then pure word
  else do
    let overrun ← .invoke Call.overrun
    nomatch overrun

/-- `main` of `client6.c`. -/
def client6 (argv : List CString) : Process Unit :=
  match argv with
  | [_, address, _, interface] => do
      match ← .invoke Call.socket with
      | none => failWithPerror "CLIENT: Socket error\n"
      | some socket_server => do
          let _ ← scanWord 16 address
          let interf ← scanWord 3 interface
          let _int ← .invoke (Call.if_nametoindex interf)
          if _int = 0 then failWithPerror "CLIENT: Name to index error\n"
          else do
            if ← .invoke (Call.connect (some socket_server)) then do
              showReceived (some socket_server) 256 "CLIENT: Server msg: "
              .invoke (Call.close (some socket_server))
              .exit .success
            else failWithPerror "CLIENT: Connect error\n"
  | _ => do
      print .stdout "CLIENT: Bad number of arguments\n"
      print .stdout "CLIENT: Correct <IPv6 ADDRESS> <PORT> <INTERFACE>\n"
      .exit .failure

inductive ServerProgram where
  | server4
  | server6
  deriving DecidableEq

def ServerProgram.main : ServerProgram → List CString → Nat → Process Unit
  | server4 => Server4.main
  | server6 => Server6.main

inductive ClientProgram where
  | client4
  | client
  | client6
  deriving DecidableEq

def ClientProgram.main : ClientProgram → List CString → Process Unit
  | client4 => Greeting.client4
  | client => Greeting.client
  | client6 => Greeting.client6

/-- How a client is started. -/
structure Invocation where
  program : ClientProgram
  argv : List CString

/-- A server with its clients, none of which has made a call. -/
def start {κ : Type} (server : ServerProgram) (argv : List CString) (passes : Nat)
    (inherited : List (Option Nat)) (clients : κ → Invocation) :
    System (Party κ) Call Answer (World κ) where
  state := .start inherited
  programs
    | .server => server.main argv passes
    | .client name => (clients name).program.main (clients name).argv

end NetworkServices.Greeting
