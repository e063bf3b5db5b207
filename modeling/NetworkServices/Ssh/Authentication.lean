import NetworkServices.Foundation.Iteration
import NetworkServices.Ssh.Password

/-! The functions `authenticate_user` of `sftp_get.c` and of `exec_rsa.c`. Each starts with
a part that may already return, and goes on with a loop in which the user is asked. What
`read` and what `scanf` deliver are given apart, since it depends on the terminal, on the
buffer of `stdin` and on `fflush` which bytes go to which of them. -/

set_option autoImplicit false

namespace NetworkServices.Ssh

def PASS_LEN : Nat := 128

/-- What the libssh2 calls answer: the methods the server supports, the text of the last
error, and the results of the calls of one kind in their order. -/
structure Server where
  userauth_list : Option CString
  userauth_authenticated : Bool
  session_last_error : CString
  userauth_publickey_fromfile : Nat → Int
  userauth_password : Nat → Int

def supports (method : String) (auth_list : CString) : Bool :=
  strstr auth_list (ascii method)

/-- What both loops work on: the number of attempts made, the console, the results that
`read` still delivers, the passwords tried and the texts printed. -/
structure Dialogue where
  attempts : Nat
  console : Console
  reads : List Read
  tried : List CString
  printed : List CString

namespace Dialogue

def begin (console : Console) (bytes : List UInt8) : Dialogue where
  attempts := 0
  console
  reads := bytes.map .byte
  tried := []
  printed := []

def print (dialogue : Dialogue) (message : CString) : Dialogue :=
  { dialogue with printed := dialogue.printed ++ [message] }

/-- `get_password("Password: ", password, PASS_LEN)`: the password, unless it fails. -/
def ask (opening : Nat → Opening) (dialogue : Dialogue) : Option CString × Dialogue :=
  let reading := get_password (ascii "Password: ") PASS_LEN (opening dialogue.attempts)
    dialogue.console dialogue.reads
  let asked := { dialogue with console := reading.after, reads := reading.rest }
  if reading.ret ≠ 0 then (none, asked.print (ascii "get_password() failed!\n"))
  else (some (cString reading.buf), asked)

/-- The password is sent, or opens the private key, and the server answers. -/
def attempt (answer : Nat → Int) (password : CString) (dialogue : Dialogue) :
    Dialogue ⊕ Int × Dialogue :=
  let tried := { dialogue with
    attempts := dialogue.attempts + 1, tried := dialogue.tried ++ [password] }
  if answer dialogue.attempts = 0 then .inr (0, tried.print (ascii "Authentication succeeded!\n"))
  else .inl (tried.print (ascii "Authentication failed!\n"))

end Dialogue

/-- How both functions start: a server that lists no methods ends the authentication. -/
def withAuthList (server : Server) (dialogue : Dialogue)
    (next : CString → Dialogue ⊕ Int × Dialogue) : Dialogue ⊕ Int × Dialogue :=
  match server.userauth_list with
  | none =>
      if server.userauth_authenticated then
        .inr (-1, dialogue.print (ascii "USERAUTH_NONE succeeded!\n"))
      else
        .inr (-1, dialogue.print
          (ascii "libssh2_userauth_list(): " ++ server.session_last_error ++ ascii "\n"))
  | some auth_list => next auth_list

namespace SftpGet

def start (server : Server) (dialogue : Dialogue) : Dialogue ⊕ Int × Dialogue :=
  withAuthList server dialogue fun auth_list =>
    if supports "publickey" auth_list ∧ server.userauth_publickey_fromfile 0 = 0 then
      .inr (0, dialogue)
    else if ¬ supports "password" auth_list then
      .inr (-1, dialogue.print (ascii
        "Publickey method failed and password method is not supported by server.\n"))
    else .inl dialogue

/-- One pass of `for (;;)`. -/
def pass (server : Server) (opening : Nat → Opening) (dialogue : Dialogue) :
    Dialogue ⊕ Int × Dialogue :=
  match dialogue.ask opening with
  | (none, asked) => .inr (-1, asked)
  | (some password, asked) => asked.attempt server.userauth_password password

/-- What `authenticate_user` returns, when at most `steps` passes of its loop are made. -/
def authenticate_user (server : Server) (opening : Nat → Opening) (steps : Nat)
    (dialogue : Dialogue) : Option (Int × Dialogue) :=
  match start server dialogue with
  | .inr result => some result
  | .inl dialogue => (iterate (pass server opening) steps dialogue).getRight?

end SftpGet

namespace ExecRsa

def start (server : Server) (dialogue : Dialogue) : Dialogue ⊕ Int × Dialogue :=
  withAuthList server dialogue fun auth_list =>
    if ¬ supports "publickey" auth_list then
      .inr (-1, dialogue.print (ascii "Publickey method not supported by server.\n"))
    else .inl dialogue

/-- The inner loop, with the variable `ret` and the characters that `scanf` still
delivers. -/
structure Choice where
  dialogue : Dialogue
  ret : UInt8
  chars : List UInt8

/-- `scanf("%c", &ret)`, which stores nothing when the input has ended. -/
def scanChar (ret : UInt8) : List UInt8 → UInt8 × List UInt8
  | [] => (ret, [])
  | char :: rest => (char, rest)

/-- `"czy na klucz nałożone jest hasło? t/n\n"` in UTF-8. -/
def question : CString :=
  ascii "czy na klucz na" ++ [0xC5, 0x82] ++ ascii "o" ++ [0xC5, 0xBC] ++
    ascii "one jest has" ++ [0xC5, 0x82] ++ ascii "o? t/n\n"

/-- Behind the inner loop: the key is tried. In the next pass of the outer loop `ret` is
a new variable without a value, so it holds what its place in memory happens to hold. -/
def tryKey (server : Server) (indeterminate : Nat → UInt8) (password : CString)
    (chars : List UInt8) (dialogue : Dialogue) : Choice ⊕ Int × Dialogue :=
  match dialogue.attempt server.userauth_publickey_fromfile password with
  | .inr result => .inr result
  | .inl next => .inl ⟨next.print question, indeterminate next.attempts, chars⟩

/-- One pass of `while(flag)`, with what follows it when `flag` becomes 0. -/
def pass (server : Server) (opening : Nat → Opening) (indeterminate : Nat → UInt8)
    (choice : Choice) : Choice ⊕ Int × Dialogue :=
  let (ret, chars) := scanChar choice.ret choice.chars
  if ret = 116 then
    match choice.dialogue.ask opening with
    | (none, asked) => .inr (-1, asked)
    | (some password, asked) => tryKey server indeterminate password chars asked
  else if ret = 110 then tryKey server indeterminate [] chars choice.dialogue
  else .inl ⟨choice.dialogue, ret, chars⟩

def authenticate_user (server : Server) (opening : Nat → Opening) (indeterminate : Nat → UInt8)
    (steps : Nat) (dialogue : Dialogue) (chars : List UInt8) : Option (Int × Dialogue) :=
  match start server dialogue with
  | .inr result => some result
  | .inl dialogue =>
      (iterate (pass server opening indeterminate) steps
        ⟨dialogue.print question, indeterminate dialogue.attempts, chars⟩).getRight?

end ExecRsa

end NetworkServices.Ssh
