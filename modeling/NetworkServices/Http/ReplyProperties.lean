import NetworkServices.Http.HandlerProperties

/-! On what a reply of `connection_handler` depends. The buffer it is sent from is cleared only
for an HTTP/1.1 request, so every other request is answered with what the stack held. -/

set_option autoImplicit false

namespace NetworkServices.Http

/-- The text given to `write`. -/
def Answer.sent : Answer → Option CString
  | .reply text => some text
  | .exits => none
  | .crashes => none

theorem sent_handler (surroundings : Surroundings) (request : Request) (written : Bool) :
    (connection_handler surroundings (.request request) written).sent =
      (answer surroundings request).2.sent := by
  unfold connection_handler
  dsimp only
  rcases answer surroundings request with ⟨stored, answered⟩
  cases answered with
  | exits => rfl
  | crashes => rfl
  | reply text =>
      cases written with
      | false => rfl
      | true => rfl

section Asked

variable {surroundings : Surroundings} {request : Request}

theorem sent_of_asked (asked : protocol surroundings request = ascii "HTTP/1.1") :
    (answer surroundings request).2.sent =
      if (surroundings.malloc (pathSize (url surroundings request))).isSome then
        surroundings.directory.map (page (path (url surroundings request)))
      else none := by
  rw [answer, if_pos asked]
  cases surroundings.malloc (pathSize (url surroundings request)) with
  | none => rfl
  | some block =>
      cases surroundings.directory with
      | none => rfl
      | some names => rfl

end Asked

/-- A process whose memory is clear but for a text at the start of `buff_send`. -/
def holding (stale : CString) (directory : Option (List CString)) : Surroundings where
  method := ⟨.zeroed 256, []⟩
  url := ⟨.zeroed 256, []⟩
  protocol := ⟨.zeroed 256, []⟩
  buff_send := ⟨(Buffer.zeroed 512).receive stale, []⟩
  malloc size := some (List.replicate size 0)
  directory := directory

end NetworkServices.Http
