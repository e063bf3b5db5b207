import NetworkServices.Foundation.CString

/-! The function `get_password` of `libcommon.c`, with what it does to the terminal, to the
signals and to its buffer. -/

set_option autoImplicit false

namespace NetworkServices.Ssh

/-- The result of `read(in, &ch, 1)`. -/
inductive Read where
  | byte (ch : UInt8)
  | finished
  | failed
  deriving DecidableEq

/-- `struct termios`, of which only the local flags matter here. -/
structure Termios where
  c_lflag : UInt32
  others : List UInt8
  deriving DecidableEq

def ECHO : UInt32 := 8
def ECHONL : UInt32 := 64

abbrev SignalSet := Nat → Bool

/-- `SIGINT`, `SIGTSTP`, `SIGTERM`, `SIGQUIT` and `SIGALRM`. -/
def blockedSignals : SignalSet := fun signal =>
  signal == 2 || signal == 20 || signal == 15 || signal == 3 || signal == 14

structure Console where
  termios : Termios
  mask : SignalSet

/-- How the terminal is opened: the descriptor of `/dev/tty`, where there is one, and
whether its settings can be read. -/
structure Opening where
  tty : Option Nat
  tcgetattr : Bool
  deriving DecidableEq

def STDIN_FILENO : Nat := 0
def STDOUT_FILENO : Nat := 1

/-- The reading loop with space for `space` more characters: what it stores, the last
result of `read`, and the results that are left. Behind the last one the input has
ended. A character that ends the loop is read and not stored. -/
def passwordLoop : Nat → List Read → List UInt8 × Read × List Read
  | _, [] => ([], .finished, [])
  | space, read :: rest =>
      match read with
      | .byte ch =>
          if ch ≠ 10 ∧ ch ≠ 13 ∧ 0 < space then
            let (stored, last, rest) := passwordLoop (space - 1) rest
            (ch :: stored, last, rest)
          else ([], .byte ch, rest)
      | stopped => ([], stopped, rest)

structure Reading where
  ret : Int
  /-- What is stored at the start of the buffer, the terminator included. -/
  buf : List UInt8
  /-- What is written to which descriptor, and which one is closed. -/
  written : List (Nat × CString)
  closed : Option Nat
  during : Console
  after : Console
  rest : List Read

def get_password (prompt : CString) (buf_len : Nat) (opening : Opening) (console : Console)
    (reads : List Read) : Reading :=
  if buf_len = 0 then
    { ret := -1, buf := [], written := [], closed := none, during := console, after := console,
      rest := reads }
  else
    let input := opening.tty.getD STDIN_FILENO
    let out := opening.tty.getD STDOUT_FILENO
    let hides := input ≠ STDIN_FILENO ∧ opening.tcgetattr
    let oterm : Termios := if hides then console.termios else ⟨ECHO, []⟩
    let term : Termios :=
      if hides then { oterm with c_lflag := oterm.c_lflag &&& ~~~(ECHO ||| ECHONL) } else oterm
    let during : Console :=
      { termios := if hides then term else console.termios
        mask := fun signal => console.mask signal || blockedSignals signal }
    let (stored, last, rest) := passwordLoop (buf_len - 1) reads
    { ret := if last = .failed then -1 else 0
      buf := stored ++ [0]
      written :=
        (out, prompt) :: if term.c_lflag &&& ECHO = 0 then [(out, [10])] else []
      closed := if input ≠ STDIN_FILENO then some input else none
      during
      after :=
        { termios := if term ≠ oterm then oterm else during.termios
          mask := console.mask }
      rest }

end NetworkServices.Ssh
