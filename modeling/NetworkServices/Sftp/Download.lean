import NetworkServices.Foundation.ByteStream
import NetworkServices.Foundation.CString

/-! The download at the end of `main` in `sftp_get.c`: from the open of the local
file to the exit. -/

set_option autoImplicit false

namespace NetworkServices.SftpGet

/-- How `open` and the calls behind the copy loop end. -/
structure Calls where
  opened : Bool
  shutdown : Int32
  disconnect : Int32
  free : Int32

/-- How the rest of `main` ends, and the local file then, `none` where there is
none. A read that never returns leaves `main` in the copy loop. -/
inductive Outcome where
  | copying
  | exitFailure (message : String) (localFile : Option (List UInt8))
  | exitSuccess (localFile : Option (List UInt8))
  deriving DecidableEq

/-- `write(file, mem, rc)`. Without an open file there is nothing to append to. -/
def write (file : Option (List UInt8)) (chunk : List UInt8) (result : WriteResult) :
    Option (List UInt8) :=
  file.map (· ++ result.accepted chunk)

/-- The loop `do … while (1)` from write number `i` on. A result of 0 and a
negative one leave it alike, and nobody looks at what `write` returns. -/
def copyLoop (writes : Nat → WriteResult) :
    Nat → Option (List UInt8) → List (ReadResult UInt8) → Option (Option (List UInt8))
  | _, _, [] => none
  | i, file, .data chunk :: reads => copyLoop writes (i + 1) (write file chunk (writes i)) reads
  | _, file, _ :: _ => some file

def finish (calls : Calls) (localFile : Option (List UInt8)) : Outcome :=
  if calls.shutdown < 0 then .exitFailure "libssh2_sftp_shutdown()" localFile
  else if calls.disconnect < 0 then .exitFailure "libssh2_session_disconnect()" localFile
  else if calls.free < 0 then .exitFailure "libssh2_session_free()" localFile
  else .exitSuccess localFile

/-- The download into a file with the content `previous`, which `open` truncates. -/
def download (previous : Option (List UInt8)) (calls : Calls) (reads : List (ReadResult UInt8))
    (writes : Nat → WriteResult) : Outcome :=
  if calls.opened then
    match copyLoop writes 0 (some []) reads with
    | some file => finish calls file
    | none => .copying
  else
    match copyLoop writes 0 none reads with
    | some _ => finish calls previous
    | none => .copying

end NetworkServices.SftpGet
