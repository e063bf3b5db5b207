import NetworkServices.Sftp.Paths
import NetworkServices.Ssh.Authentication
import NetworkServices.Ssh.Session

/-! The program of `sftp_get.c` with the calls it makes. It keeps the handle of the remote file
in a variable of the type `int`. -/

set_option autoImplicit false

namespace NetworkServices.Ssh.Session.SftpGet

open NetworkServices.SftpGet (PATH_SIZE directoryPath totalPathToFile)

/-- One pass of `for (;;)`. -/
def attempt (session : Address) (cd : ConnectionData) (_ : Unit) : Process (Unit ⊕ Int32) :=
  .call .get_password fun
    | none => do
        fprintf .stderr (ascii "get_password() failed!\n")
        return .inr (-1)
    | some password => do
        let err ← .invoke (Call.userauth_password session (username cd) password)
        if err = 0 then
          fprintf .stdout (ascii "Authentication succeeded!\n")
          return .inr 0
        else
          fprintf .stdout (ascii "Authentication failed!\n")
          return .inl ()

def byPassword (passes : Nat) (session : Address) (cd : ConnectionData) (auth_list : CString) :
    Process Int32 :=
  if ¬ supports "password" auth_list then do
    fprintf .stderr
      (ascii "Publickey method failed and password method is not supported by server.\n")
    return -1
  else .loop (attempt session cd) passes ()

def authenticate_user (passes : Nat) (session : Address) (cd : ConnectionData) : Process Int32 :=
  withMethods session cd fun auth_list =>
    if supports "publickey" auth_list then do
      let err ← .invoke (Call.userauth_publickey_fromfile session (username cd)
        (ascii "public.key") (ascii "private.key") (ascii "passphrase"))
      if err = 0 then return 0 else byPassword passes session cd auth_list
    else byPassword passes session cd auth_list

/-- What the memory of the arrays and of the block for `totalPathToFile` holds at first. -/
structure Memory where
  accept : CString
  filename : CString
  mem : CString
  block : Buffer PATH_SIZE

/-- One pass of `do … while (bytes > 0)`, with the strings in `filename` and `mem`. -/
def list (handle : Address) (held : CString × CString) :
    Process ((CString × CString) ⊕ (CString × Int32)) :=
  .call (.sftp_readdir handle) fun answer => do
    let filename := answer.filename.getD held.1
    let mem := answer.mem.getD held.2
    fprintf .stdout ((if 0 < mem.length then mem else filename) ++ ascii "\n")
    return if answer.bytes > 0 then .inl (filename, mem) else .inr (filename, answer.bytes)

/-- How a run ends that does not end in `exit`: `memset` gets a null pointer, or
`libssh2_sftp_read` one that is none of the library's. -/
inductive Fault where
  | nullPointer
  | strayPointer

/-- One pass of the copy loop. -/
def copy (handle : Address) (file : Int32) (_ : Unit) : Process (Unit ⊕ Option Fault) :=
  .call (.sftp_read handle 1024) fun
    | some (.data bytes) =>
        if 0 < bytes.length then do
          .invoke (Call.write file bytes)
          return .inl ()
        else return .inr none
    | some .finished | some .failed => return .inr none
    | none => return .inr (some .strayPointer)

/-- A pointer that is stored in an `int`. -/
def truncated (pointer : Address) : Int32 := pointer.toUInt32.toInt32

/-- An `int` that is passed as a pointer. -/
def widened (sftp_handle : Int32) : Address := sftp_handle.toInt64.toUInt64

/-- From the open of the remote file on. The loop around `libssh2_sftp_open` is left or the
process exits in its first pass. -/
def download (passes : Nat) (memory : Memory) (filename : CString) (sockfd : Nat)
    (session sftp : Address) (cd : ConnectionData) : Process Fault := do
  fprintf .stdout (ascii "Enter file name you want to download.\n")
  let word ← .invoke Call.scanf_word
  let filename := word.getD filename
  let path := totalPathToFile memory.block (username cd) filename
  fprintf .stdout (ascii "path to file: " ++ path ++ ascii "\n")
  let opened ← .invoke (Call.sftp_open sftp path)
  let sftp_handle := truncated (opened.getD 0)
  if sftp_handle = 0 then failSftp session sftp (ascii "libssh2_sftp_open()")
  else
    fprintf .stderr (ascii "libssh2_sftp_open() is done, now receive data!\n")
    let file ← .invoke (Call.open filename)
    match ← Program.loop (copy (widened sftp_handle) file) passes () with
    | some fault => return fault
    | none =>
        let closed ← .invoke (Call.closeFile file)
        if closed = 0 then fprintf .stdout (ascii "File succesfully closed!\n") else pure ()
        let err ← .invoke (Call.sftp_shutdown sftp)
        if err < 0 then failSftp session sftp (ascii "libssh2_sftp_shutdown()")
        else finish sockfd session

def main (passes : Nat) (memory : Memory) (cd : Option Allocated) : Process Fault := do
  let (sockfd, session, cd) ← begin memory.accept (authenticate_user passes) cd
  .call (.sftp_init session) fun
    | none => do
        fprintf .stderr (ascii "libssh2_sftp_init() failed!\n")
        .exit .failure
    | some sftp =>
        .call (.sftp_opendir sftp (directoryPath (username cd))) fun
          | none => failSftp session sftp (ascii "libssh2_sftp_opendir()")
          | some handle => do
              let (filename, bytes) ← Program.loop (list handle) passes
                (memory.filename, memory.mem)
              if bytes < 0 then failSftp session sftp (ascii "libssh2_sftp_readdir_ex()")
              else
                let err ← .invoke (Call.sftp_closedir handle)
                if err < 0 then failSftp session sftp (ascii "libssh2_sftp_closedir()")
                else
                  .call (.malloc PATH_SIZE) fun
                    | none => return .nullPointer
                    | some _ => download passes memory filename sockfd session sftp cd

end NetworkServices.Ssh.Session.SftpGet
