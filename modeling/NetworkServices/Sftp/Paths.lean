import NetworkServices.Foundation.Buffer
import NetworkServices.Foundation.Stores

/-! The paths in `main` of `sftp_get.c`: the directory of the user, and the path of the file
that is asked for. -/

set_option autoImplicit false

namespace NetworkServices.SftpGet

def BUF_SIZE : Nat := 1024

/-- The size of the block for `totalPathToFile`. -/
def PATH_SIZE : Nat := 2048

inductive Target where
  | dir
  | filename
  | totalPathToFile
  deriving DecidableEq

/-- `strncpy(block, text, n)`: the text, cut to `n` bytes or filled up with zeros. -/
def strncpy (block : List UInt8) (text : CString) (n : Nat) : List UInt8 :=
  overlay (text.take n ++ List.replicate (n - text.length) 0) block

/-- `strncat(block, text, n)`: behind the string in the block, at most `n` bytes of the text and
a terminator. -/
def strncat (block : List UInt8) (text : CString) (n : Nat) : List UInt8 :=
  overlay (cString block ++ text.take n ++ [0]) block

def strncatStore (block : List UInt8) (text : CString) (n : Nat) : Store Target :=
  ⟨.totalPathToFile, PATH_SIZE, (cString block).length, (text.take n).length + 1⟩

/-- The string in `dir`. -/
def directoryPath (username : CString) : CString :=
  ascii "/home/" ++ username

def dirStores (username : CString) : List (Store Target) :=
  storeText .dir BUF_SIZE (ascii "/home/") ::
    appendTexts .dir BUF_SIZE (ascii "/home/").length [username]

/-- The size of a pointer, which is what `sizeof(totalPathToFile)` is. -/
def POINTER_SIZE : Nat := 8

/-- The contents of the block behind `memset` and each of the three string calls. The word that
`scanf("%s", filename)` stores is read again as a string. -/
def cleared (block : Buffer PATH_SIZE) : List UInt8 :=
  overlay (List.replicate POINTER_SIZE 0) block.bytes

def withDirectory (block : Buffer PATH_SIZE) (username : CString) : List UInt8 :=
  strncpy (cleared block) (directoryPath username) BUF_SIZE

def withSlash (block : Buffer PATH_SIZE) (username : CString) : List UInt8 :=
  strncat (withDirectory block username) (ascii "/") 1

def withFile (block : Buffer PATH_SIZE) (username : CString) (word : List UInt8) : List UInt8 :=
  strncat (withSlash block username) (cString word) BUF_SIZE

def pathStores (block : Buffer PATH_SIZE) (username : CString) (word : List UInt8) :
    List (Store Target) :=
  [⟨.totalPathToFile, PATH_SIZE, 0, POINTER_SIZE⟩,
    storeText .filename BUF_SIZE word,
    ⟨.totalPathToFile, PATH_SIZE, 0, BUF_SIZE⟩,
    strncatStore (withDirectory block username) (ascii "/") 1,
    strncatStore (withSlash block username) (cString word) BUF_SIZE]

/-- The path that is passed to `libssh2_sftp_open`. -/
def totalPathToFile (block : Buffer PATH_SIZE) (username : CString) (word : List UInt8) : CString :=
  cString (withFile block username word)

end NetworkServices.SftpGet
