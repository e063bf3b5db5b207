import NetworkServices.Ssh.Authentication
import NetworkServices.Ssh.Session

/-! The program of `exec_rsa.c` with the calls it makes. -/

set_option autoImplicit false

namespace NetworkServices.Ssh.Session.ExecRsa

/-- One pass of `while(flag)`: the next value of `ret`, or the password, unless
`get_password` fails. -/
def choose (ret : UInt8) : Process (UInt8 ⊕ Option CString) := do
  let char ← .invoke Call.scanf_char
  let ret := char.getD ret
  if ret = 116 then
    .call .get_password fun
      | some password => pure (.inr (some password))
      | none => do
          fprintf .stderr (ascii "get_password() failed!\n")
          return .inr none
  else if ret = 110 then return .inr (some [])
  else return .inl ret

/-- One pass of `for (;;)`, where `ret` is a new variable without a value. -/
def attempt (passes : Nat) (indeterminate : Nat → UInt8) (session : Address)
    (cd : ConnectionData) (attempts : Nat) : Process (Nat ⊕ Int32) := do
  fprintf .stdout Ssh.ExecRsa.question
  match ← Program.loop choose passes (indeterminate attempts) with
  | none => return .inr (-1)
  | some password =>
      let err ← .invoke (Call.userauth_publickey_fromfile session (username cd)
        (ascii "./public.key") (ascii "./private.key") password)
      if err = 0 then
        fprintf .stdout (ascii "Authentication succeeded!\n")
        return .inr 0
      else
        fprintf .stdout (ascii "Authentication failed!\n")
        return .inl (attempts + 1)

def authenticate_user (passes : Nat) (indeterminate : Nat → UInt8) (session : Address)
    (cd : ConnectionData) : Process Int32 :=
  withMethods session cd fun auth_list =>
    if ¬ supports "publickey" auth_list then do
      fprintf .stderr (ascii "Publickey method not supported by server.\n")
      return -1
    else .loop (attempt passes indeterminate session cd) passes 0

def BUF_SIZE : Nat := 4096

/-- One pass of `do … while ((bytes > 0) && (total < BUF_SIZE))`, with what `buf` holds so far.
It ends with all of it, unless the call fails. -/
def receive (channel : Address) (buf : List UInt8) : Process (List UInt8 ⊕ Option (List UInt8)) :=
  .call (.channel_read channel (BUF_SIZE - buf.length)) fun
    | .failed => pure (.inr none)
    | .finished => pure (.inr (some buf))
    | .data bytes =>
        pure (if 0 < bytes.length ∧ (buf ++ bytes).length < BUF_SIZE then .inl (buf ++ bytes)
          else .inr (some (buf ++ bytes)))

def main (passes : Nat) (accept : CString) (indeterminate : Nat → UInt8) (cd : Option Allocated) :
    Process Unit := do
  let (sockfd, session, _) ← begin accept (authenticate_user passes indeterminate) cd
  .call (.channel_open_session session) fun
    | none => failSsh session (ascii "linssh2_channel_open_session()")
    | some channel => do
        let err ← .invoke (Call.channel_exec channel (ascii "date"))
        if err < 0 then failSsh session (ascii "libssh2_channel_exec()")
        else
          match ← Program.loop (receive channel) passes [] with
          | none => failSsh session (ascii "libssh2_channel_read()")
          | some buf =>
              fprintf .stdout (ascii "Received:\n")
              fprintf .stdout buf
              fprintf .stdout (ascii "\n")
              let status ← .invoke (Call.channel_get_exit_status channel)
              fprintf .stdout (ascii "Exit status: " ++ signedDecimal status ++ ascii "\n")
              let err ← .invoke (Call.channel_close channel)
              if err < 0 then failSsh session (ascii "libssh2_channel_close()")
              else
                let err ← .invoke (Call.channel_free channel)
                if err < 0 then failSsh session (ascii "libssh2_channel_free()")
                else finish sockfd session

end NetworkServices.Ssh.Session.ExecRsa
