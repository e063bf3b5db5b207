import NetworkServices.Foundation.TextInput
import NetworkServices.Palindrome.Server

/-! The loop of `client3.cpp`, which sends the lines of its standard input to the
palindrome server, and what the datagrams do there. -/

set_option autoImplicit false

namespace NetworkServices.Palindrome

/-- `message` as a C string behind `cin.getline(message, 256)`. -/
def message (stream : Istream) : CString :=
  cString ((stream.getline 256).1 ++ [0])

theorem message_eq_nil_of_stored {stream : Istream} (stored : (stream.getline 256).1 = []) :
    message stream = [] := by
  rw [message, stored]
  rfl

/-- The datagrams of the client, each but the last answered by the server. The loop ends
behind an empty text, whatever the state of the stream is. -/
def datagrams (stream : Istream) : List CString :=
  if message stream = [] then [[]]
  else message stream :: datagrams (stream.getline 256).2
termination_by stream.input.length
decreasing_by
  next nonempty => exact Istream.getline_input_lt (mt message_eq_nil_of_stored nonempty)

def delivered (datagram : CString) : ReadResult UInt8 :=
  if datagram = [] then .finished else .data datagram

/-- After how many answers the server leaves its loop, if it does. -/
def stopsAfter (buffer : Buffer 256) : List Round → Option Nat
  | [] => none
  | round :: rest =>
      match serve buffer round with
      | (.replied _ _, buffer) => (stopsAfter buffer rest).map (· + 1)
      | (.exitSuccess, _) => some 0
      | (.exitFailure, _) => none

/-- The lines in front of the first empty line or the end of the input. -/
def requested (stdin : List UInt8) : List (List UInt8) :=
  (stdin.splitOn newline).takeWhile (· ≠ [])

end NetworkServices.Palindrome
