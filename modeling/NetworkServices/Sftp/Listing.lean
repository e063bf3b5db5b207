import NetworkServices.Foundation.CString

/-! The listing of the remote directory in `main` of `sftp_get.c`: the loop over
`libssh2_sftp_readdir_ex` and the close of the handle. -/

set_option autoImplicit false

namespace NetworkServices.SftpGet

/-- The string in a buffer, and the number of the call that stored it; without one it is what
the memory happens to hold. -/
structure Held where
  text : CString
  call : Option Nat
  deriving DecidableEq

/-- What `libssh2_sftp_readdir_ex` returns and stores; a buffer can be left as it was. -/
structure Readdir where
  bytes : Int32
  filename : Option CString
  mem : Option CString

def Held.store (held : Held) (call : Nat) : Option CString → Held
  | none => held
  | some text => ⟨text, some call⟩

/-- The loop `do … while (bytes > 0)`: the buffers it prints and the last value of `bytes`. A call
that never returns leaves `main` in the loop. -/
def listLoop : Nat → Held → Held → List Readdir → Option (List Held × Int32)
  | _, _, _, [] => none
  | call, filename, mem, answer :: answers =>
      let filename := filename.store call answer.filename
      let mem := mem.store call answer.mem
      let line := if 0 < mem.text.length then mem else filename
      if answer.bytes > 0 then
        (listLoop (call + 1) filename mem answers).map fun result => (line :: result.1, result.2)
      else some ([line], answer.bytes)

/-- What is printed, and the call after whose failure `main` exits. -/
structure Listing where
  printed : List Held
  failure : Option String
  deriving DecidableEq

/-- The listing with buffers that hold `filename` and `mem` before anything is stored. -/
def list (filename mem : CString) (answers : List Readdir) (closedir : Int32) : Option Listing :=
  (listLoop 0 ⟨filename, none⟩ ⟨mem, none⟩ answers).map fun (result : List Held × Int32) =>
    { printed := result.1
      failure :=
        if result.2 < 0 then some "libssh2_sftp_readdir_ex()"
        else if closedir < 0 then some "libssh2_sftp_closedir()"
        else none }

end NetworkServices.SftpGet
