import NetworkServices.Foundation.Buffer
import NetworkServices.Foundation.ByteStream
import NetworkServices.Palindrome.IsPalindrome

/-! The receive loop of `server3.cpp`, the server that answers each datagram with a
verdict on its text. -/

set_option autoImplicit false

namespace NetworkServices.Palindrome

structure Round where
  received : ReadResult UInt8
  /-- The variable of the digit check, which is never assigned. -/
  currentChar : UInt8
  malloc : Option Block
  beyond : List UInt8

inductive Iteration where
  | exitFailure
  | exitSuccess
  | replied (complained : Bool) (reply : UInt8)

/-- The digit check, which prints a complaint and nothing else: whether it does. -/
def complains (currentChar : UInt8) : List UInt8 → Bool
  | [] => false
  | char :: rest =>
      if !isdigit char then true
      else if currentChar ≠ 0 then complains currentChar rest
      else false

/-- The byte sent back: `t`, `n` or `x`. -/
def answer (verdict : Int32) : UInt8 :=
  if verdict = 1 then 116 else if verdict = 0 then 110 else 120

/-- One iteration of the loop. The length of the text is that of `strlen(buff)`, not
what `recvfrom` returned. -/
def serve (buffer : Buffer 256) (round : Round) : Iteration × Buffer 256 :=
  match round.received with
  | .failed => (.exitFailure, buffer)
  | .finished => (.exitSuccess, buffer)
  | .data datagram =>
      let buffer := buffer.receive datagram
      match isPalindrome round.malloc (buffer.text round.beyond) with
      | none => (.exitFailure, buffer)
      | some verdict =>
          (.replied (complains round.currentChar (buffer.bytes ++ round.beyond)) (answer verdict),
            buffer)

def run (buffer : Buffer 256) : List Round → List UInt8
  | [] => []
  | round :: rest =>
      match serve buffer round with
      | (.replied _ reply, buffer) => reply :: run buffer rest
      | _ => []

end NetworkServices.Palindrome
