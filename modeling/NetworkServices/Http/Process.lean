import NetworkServices.Foundation.Threads
import NetworkServices.Http.Handler

/-! The process of the HTTP server: the accept loop of `main`, and one thread for each
connection that runs `connection_handler` call by call. -/

set_option autoImplicit false

namespace NetworkServices.Http

/-- The result of `accept`, and for a connection whether there is memory for `new_sock` and
whether `pthread_create` starts a thread. -/
structure Accepted where
  new_socket : Int
  allocated : Bool
  created : Bool

inductive Cause where
  | exitSuccess
  | exitFailure
  | killed
  deriving DecidableEq

/-- The loop of `main`. It compares the result of `pthread_create` with 0 from below, and
the errors are positive, so it goes on when no thread could be started. -/
def acceptLoop (accepted : Accepted) : Bool ⊕ Cause :=
  if accepted.new_socket = 0 then .inr .exitSuccess
  else if accepted.new_socket < 0 then .inr .exitFailure
  else if accepted.allocated then .inl accepted.created
  else .inr .killed

/-- A handler in front of `recv`, behind it, in front of `write`, and behind that with what
it has sent. From the answer on it carries all that it has stored. -/
inductive Thread where
  | receiving
  | answering (request : Request)
  | replying (stored : List (Store Target)) (text : CString)
  | returned (stored : List (Store Target)) (sent : CString)

def Thread.stores : Thread → List (Store Target)
  | .replying stored _ | .returned stored _ => stored
  | .receiving | .answering _ => []

/-- The next call of a handler with its result. While it composes an answer it may meet a
memory fault, and what it has stored may come to one at any later time: when it writes,
frees its block or returns, or in the heap that it shares with the others. -/
inductive Action where
  | recv (result : Recv)
  | answer (surroundings : Surroundings) (faults : Bool)
  | write (written : Bool)
  | fault

def storesBefore (surroundings : Surroundings) (request : Request) : List (Store Target) :=
  receiveStores request ++ wordStores surroundings request ++ (answer surroundings request).1

/-- What the handler comes to. Only a store outside of its array can come to a fault. -/
def act : Thread → Action → Option (Thread ⊕ Cause)
  | .receiving, .recv (.request request) => some (.inl (.answering request))
  | .receiving, .recv _ => some (.inr .exitFailure)
  | .answering request, .answer surroundings true =>
      if AllInside (storesBefore surroundings request) then none else some (.inr .killed)
  | .answering request, .answer surroundings false =>
      match (answer surroundings request).2 with
      | .exits => some (.inr .exitFailure)
      | .crashes => some (.inr .killed)
      | .reply text => some (.inl (.replying (storesBefore surroundings request) text))
  | .replying stored text, .write true => some (.inl (.returned stored text))
  | .replying _ _, .write false => some (.inr .exitFailure)
  | thread, .fault => if AllInside thread.stores then none else some (.inr .killed)
  | _, _ => none

def server : Threaded Thread Accepted Action Cause where
  start := .receiving
  main := acceptLoop
  act := act

end NetworkServices.Http
