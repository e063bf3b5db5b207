import NetworkServices.Foundation.ByteStream
import NetworkServices.Foundation.Interaction
import NetworkServices.Sftp.Listing
import NetworkServices.Ssh.ConnectionData

/-! What `sftp_get.c` and `exec_rsa.c` share of their session with a server: the calls of
libssh2 and of the system, and the functions of `libcommon.c` that make them. -/

set_option autoImplicit false

namespace NetworkServices.Ssh.Session

/-- A pointer to a structure of the library. -/
abbrev Address := UInt64

inductive Stream where
  | stdout
  | stderr
  deriving DecidableEq

inductive Call where
  | socket
  | connect (sockfd : Nat) (address : UInt32) (port : UInt16)
  | session_init
  | session_startup (session : Address) (sockfd : Nat)
  | session_last_error (session : Address)
  | session_last_errno (session : Address)
  | session_disconnect (session : Address)
  | session_free (session : Address)
  | hostkey_hash (session : Address)
  | fgets
  | fprintf (stream : Stream) (text : CString)
  | userauth_list (session : Address) (username : CString)
  | userauth_authenticated (session : Address)
  | userauth_publickey_fromfile (session : Address) (username pubkey privkey passphrase : CString)
  | userauth_password (session : Address) (username password : CString)
  | get_password
  | scanf_char
  | scanf_word
  | channel_open_session (session : Address)
  | channel_exec (channel : Address) (command : CString)
  | channel_read (channel : Address) (count : Nat)
  | channel_get_exit_status (channel : Address)
  | channel_close (channel : Address)
  | channel_free (channel : Address)
  | sftp_init (session : Address)
  | sftp_last_error (sftp : Address)
  | sftp_opendir (sftp : Address) (path : CString)
  | sftp_readdir (handle : Address)
  | sftp_closedir (handle : Address)
  | sftp_open (sftp : Address) (path : CString)
  | sftp_read (handle : Address) (count : Nat)
  | sftp_shutdown (sftp : Address)
  | malloc (size : Nat)
  | open (name : CString)
  | write (file : Int32) (bytes : List UInt8)
  | closeFile (file : Int32)
  | close (sockfd : Nat)
  | free_connection_data

/-- How `fgets` leaves its array: with a line, as it was, or, behind an error, with anything. -/
inductive Fgets where
  | line (text : CString)
  | ended
  | failed (left : CString)

/-- What the calls return. A null pointer and the descriptor -1 are `none`; `get_password`
returns the password unless it fails. A `sftp_read` that faults returns nothing. -/
abbrev Answer : Call → Type
  | .socket => Option Nat
  | .connect _ _ _ => Bool
  | .session_init | .channel_open_session _ | .sftp_init _ | .sftp_opendir _ _ | .sftp_open _ _
  | .malloc _ => Option Address
  | .session_startup _ _ | .session_last_errno _ | .session_disconnect _ | .session_free _
  | .userauth_publickey_fromfile _ _ _ _ _ | .userauth_password _ _ _ | .channel_exec _ _
  | .channel_get_exit_status _ | .channel_close _ | .channel_free _ | .sftp_closedir _
  | .sftp_shutdown _ | .open _ | .closeFile _ => Int32
  | .session_last_error _ => CString
  | .hostkey_hash _ => Option (Vector UInt8 16)
  | .fgets => Fgets
  | .fprintf _ _ | .write _ _ | .close _ | .free_connection_data => Unit
  | .userauth_list _ _ | .get_password | .scanf_word => Option CString
  | .userauth_authenticated _ => Bool
  | .scanf_char => Option UInt8
  | .channel_read _ _ => ReadResult UInt8
  | .sftp_read _ _ => Option (ReadResult UInt8)
  | .sftp_last_error _ => UInt32
  | .sftp_readdir _ => SftpGet.Readdir

abbrev Process := Program Call Answer

def fprintf (stream : Stream) (text : CString) : Process Unit :=
  .invoke (Call.fprintf stream text)

section Errors

def print_ssh_error (session : Address) (caller : CString) : Process Unit := do
  let errmsg ← .invoke (Call.session_last_error session)
  fprintf .stderr (caller ++ ascii ": " ++ errmsg ++ ascii "\n")

/-- The labels of the `switch` in the order of their values, from 0 on. -/
def sftpErrors : List String :=
  ["LIBSSH2_FX_OK", "LIBSSH2_FX_EOF", "LIBSSH2_FX_NO_SUCH_FILE", "LIBSSH2_FX_PERMISSION_DENIED",
    "LIBSSH2_FX_FAILURE", "LIBSSH2_FX_BAD_MESSAGE", "LIBSSH2_FX_NO_CONNECTION",
    "LIBSSH2_FX_CONNECTION_LOST", "LIBSSH2_FX_OP_UNSUPPORTED", "LIBSSH2_FX_INVALID_HANDLE",
    "LIBSSH2_FX_NO_SUCH_PATH", "LIBSSH2_FX_FILE_ALREADY_EXISTS", "LIBSSH2_FX_WRITE_PROTECT",
    "LIBSSH2_FX_NO_MEDIA", "LIBSSH2_FX_NO_SPACE_ON_FILESYSTEM", "LIBSSH2_FX_QUOTA_EXCEEDED",
    "LIBSSH2_FX_UNKNOWN_PRINCIPAL", "LIBSSH2_FX_LOCK_CONFLICT", "LIBSSH2_FX_DIR_NOT_EMPTY",
    "LIBSSH2_FX_NOT_A_DIRECTORY", "LIBSSH2_FX_INVALID_FILENAME", "LIBSSH2_FX_LINK_LOOP"]

def LIBSSH2_ERROR_SFTP_PROTOCOL : Int32 := -31

/-- Other errors are not printed. -/
def print_sftp_error (session sftp : Address) (caller : CString) : Process Unit := do
  let errno ← .invoke (Call.session_last_errno session)
  if errno = LIBSSH2_ERROR_SFTP_PROTOCOL then
    let error ← .invoke (Call.sftp_last_error sftp)
    fprintf .stderr
      (caller ++ ascii ": " ++ ascii (sftpErrors.getD error.toNat "OTHER") ++ ascii "\n")
  else pure ()

/-- `print_ssh_error` and `exit(EXIT_FAILURE)`. -/
def failSsh {α : Type} (session : Address) (caller : CString) : Process α := do
  print_ssh_error session caller
  .exit .failure

def failSftp {α : Type} (session sftp : Address) (caller : CString) : Process α := do
  print_sftp_error session sftp caller
  .exit .failure

end Errors

def establish_tcp_connection (cd : ConnectionData) : Process (Option Nat) :=
  .call .socket fun
    | none => pure none
    | some sockfd =>
        .call (.connect sockfd cd.address.value cd.port) fun connected =>
          pure (if connected then some sockfd else none)

section Fingerprint

def fingerprint (hash : Vector UInt8 16) : CString :=
  ascii "Fingerprint: " ++ (ascii ":").intercalate (hash.toList.map hexadecimal) ++ ascii "\n"

/-- What `accept` holds behind `fgets`, whose result is not looked at. -/
def Fgets.left (accept : CString) : Fgets → CString
  | .line text => text
  | .ended => accept
  | .failed left => left

/-- `strncmp(accept, "y", 1) == 0`, or the same with "Y". -/
def saysYes (accept : CString) : Bool :=
  accept.head? = some 121 || accept.head? = some 89

/-- With what the array `accept` holds in front. -/
def authenticate_server (accept : CString) (session : Address) : Process Int32 :=
  .call (.hostkey_hash session) fun
    | none => do
        fprintf .stderr (ascii "Session has not ben started up.\n")
        return -1
    | some hash => do
        fprintf .stdout (fingerprint hash)
        fprintf .stdout (ascii "Accept? (y/n): ")
        let read ← .invoke Call.fgets
        return if saysYes (Fgets.left accept read) then 0 else -1

end Fingerprint

def username (cd : ConnectionData) : CString := cd.username.value.text

/-- How both `authenticate_user` start. -/
def withMethods (session : Address) (cd : ConnectionData) (next : CString → Process Int32) :
    Process Int32 :=
  .call (.userauth_list session (username cd)) fun
    | some auth_list => next auth_list
    | none => do
        let authenticated ← .invoke (Call.userauth_authenticated session)
        if authenticated then fprintf .stderr (ascii "USERAUTH_NONE succeeded!\n")
        else print_ssh_error session (ascii "libssh2_userauth_list()")
        return -1

/-- How both `main` start, with the result of `parse_connection_data`: the socket and the
session behind the authentication of the user. -/
def begin (accept : CString) (authenticate_user : Address → ConnectionData → Process Int32)
    (cd : Option Allocated) : Process (Nat × Address × ConnectionData) := do
  match cd with
  | none => .exit .failure
  | some allocated =>
      match ← establish_tcp_connection allocated.cd with
      | none => .exit .failure
      | some sockfd =>
          .call .session_init fun
            | none => do
                fprintf .stderr (ascii "libssh2_session_init() failed!\n")
                .exit .failure
            | some session => do
                let err ← .invoke (Call.session_startup session sockfd)
                if err < 0 then failSsh session (ascii "libssh2_session_startup()")
                else
                  let err ← authenticate_server accept session
                  if err < 0 then .exit .failure
                  else
                    let err ← authenticate_user session allocated.cd
                    if err < 0 then .exit .failure
                    else return (sockfd, session, allocated.cd)

/-- How both `main` end. -/
def finish {α : Type} (sockfd : Nat) (session : Address) : Process α := do
  let err ← .invoke (Call.session_disconnect session)
  if err < 0 then failSsh session (ascii "libssh2_session_disconnect()")
  else
    let err ← .invoke (Call.session_free session)
    if err < 0 then failSsh session (ascii "libssh2_session_free()")
    else
      .invoke (Call.close sockfd)
      .invoke Call.free_connection_data
      .exit .success

end NetworkServices.Ssh.Session
