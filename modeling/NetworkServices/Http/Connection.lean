import NetworkServices.Foundation.DescriptorTable
import NetworkServices.Http.Handler

/-! The descriptors that serving one connection takes and gives back, and how a client reads
the response. -/

set_option autoImplicit false

namespace NetworkServices.Http

inductive OpenFile where
  | connection
  | directory
  | other

/-- The descriptors at the end of the handler. `opendir` takes one, which `closedir` gives
back; the handler makes no other call that opens or closes. -/
def handlerDescriptors (surroundings : Surroundings) (request : Request)
    (table : DescriptorTable OpenFile) : DescriptorTable OpenFile :=
  if protocol surroundings request = ascii "HTTP/1.1" then
    match surroundings.malloc (pathSize (url surroundings request)), surroundings.directory with
    | some _, some _ =>
        let dir := table.allocate .directory
        dir.2.close dir.1
    | _, _ => table
  else table

/-- `accept`, and the handler to its end. No table is left of a process that the handler has
ended. -/
def serveConnection (surroundings : Surroundings) (request : Request) (written : Bool)
    (table : DescriptorTable OpenFile) : Option (DescriptorTable OpenFile) :=
  match (connection_handler surroundings (.request request) written).ending with
  | .returns => some (handlerDescriptors surroundings request (table.allocate .connection).2)
  | .exits => none
  | .crashes => none

section Client

/-- What stands in front of the first blank line, and what stands behind it. -/
def splitBlankLine : CString → CString × CString
  | 10 :: 10 :: rest => ([], rest)
  | char :: rest => (char :: (splitBlankLine rest).1, (splitBlankLine rest).2)
  | [] => ([], [])

/-- The value of the field `Content-Length` of a header. -/
def contentLength : CString → Option Int32
  | [] => none
  | char :: rest =>
      if ascii "Content-Length:" <+: char :: rest then
        some (atoi ((char :: rest).drop (ascii "Content-Length:").length))
      else contentLength rest

end Client

/-- The client can tell where the body ends, and the connection leaves no descriptor open.
The descriptors are those before the connection was accepted. -/
structure Framed (before : DescriptorTable OpenFile) (surroundings : Surroundings)
    (request : Request) (written : Bool) : Prop where
  delimited : ∀ text ∈ (connection_handler surroundings (.request request) written).sent,
    (contentLength (splitBlankLine text).1).map Int32.toInt =
        some ((splitBlankLine text).2.length : Int) ∨
      ∀ after ∈ serveConnection surroundings request written before,
        after.lookup (before.allocate .connection).1 = none
  released : ∀ after ∈ serveConnection surroundings request written before,
    after.openCount ≤ before.openCount

end NetworkServices.Http
