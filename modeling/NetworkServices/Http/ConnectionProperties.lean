import NetworkServices.Http.Connection
import NetworkServices.Http.ReplyProperties

/-! No response of a `connection_handler` that returns is framed: the length in its header is
that of the buffer, and the connection is not closed before the process ends. -/

set_option autoImplicit false

namespace NetworkServices.Http

variable {surroundings : Surroundings} {request : Request}

/-!
## Descriptors
-/

theorem lookup_handlerDescriptors {table : DescriptorTable OpenFile} {fd : Nat} {file : OpenFile}
    (opened : table.lookup fd = some file) :
    (handlerDescriptors surroundings request table).lookup fd = some file := by
  have used : fd ≠ table.lowestFree := by
    intro free
    rw [free, table.lookup_lowestFree] at opened
    cases opened
  unfold handlerDescriptors
  split
  · split
    · exact (DescriptorTable.lookup_close_of_ne used).trans
        ((DescriptorTable.lookup_allocate_of_ne _ used).trans opened)
    · exact opened
  · exact opened

theorem openCount_handlerDescriptors (table : DescriptorTable OpenFile) :
    (handlerDescriptors surroundings request table).openCount = table.openCount := by
  unfold handlerDescriptors
  split
  · split
    · have closed := DescriptorTable.openCount_close (table.lookup_allocate .directory)
      rw [DescriptorTable.openCount_allocate] at closed
      exact Nat.add_right_cancel closed
    · rfl
  · rfl

theorem serveConnection_eq_some_iff {written : Bool} {table after : DescriptorTable OpenFile} :
    serveConnection surroundings request written table = some after ↔
      (connection_handler surroundings (.request request) written).ending = .returns ∧
        after = handlerDescriptors surroundings request (table.allocate .connection).2 := by
  unfold serveConnection
  cases (connection_handler surroundings (.request request) written).ending with
  | returns =>
      constructor
      · intro served
        cases served
        exact ⟨rfl, rfl⟩
      · intro served
        rw [served.2]
  | exits => exact iff_of_false (by simp) (by simp)
  | crashes => exact iff_of_false (by simp) (by simp)

section Served

variable {written : Bool} {table after : DescriptorTable OpenFile}
  (served : serveConnection surroundings request written table = some after)

include served

theorem lookup_serveConnection :
    after.lookup (table.allocate .connection).1 = some .connection := by
  obtain ⟨-, same⟩ := serveConnection_eq_some_iff.mp served
  rw [same]
  exact lookup_handlerDescriptors (table.lookup_allocate .connection)

theorem openCount_serveConnection : after.openCount = table.openCount + 1 := by
  obtain ⟨-, same⟩ := serveConnection_eq_some_iff.mp served
  rw [same, openCount_handlerDescriptors, DescriptorTable.openCount_allocate]

end Served

/-- A connection as its handler meets it. -/
structure Served where
  surroundings : Surroundings
  request : Request
  written : Bool

/-- Connections that are served one after the other use up the table. -/
theorem openCount_of_served {connections : List Served} {table after : DescriptorTable OpenFile}
    (served : connections.foldlM (fun table connection =>
      serveConnection connection.surroundings connection.request connection.written table) table =
        some after) :
    after.openCount = table.openCount + connections.length := by
  induction connections generalizing table with
  | nil =>
      cases served
      rfl
  | cons connection connections ih =>
      rw [List.foldlM_cons] at served
      obtain ⟨next, first, later⟩ := Option.bind_eq_some_iff.mp served
      rw [ih later, openCount_serveConnection first, List.length_cons]
      omega

/-!
## The response
-/

theorem splitBlankLine_page (p : CString) (names : List CString) :
    splitBlankLine (page p names) =
      (ascii "HTTP/1.0 200 OK\nContent-Type: image\nContent-Length:512", (body p names).flatten) := by
  rfl

theorem contentLength_page (p : CString) (names : List CString) :
    contentLength (splitBlankLine (page p names)).1 = some 512 := by
  rw [splitBlankLine_page]
  rfl

/-- A page that fits the buffer with its header has a shorter body than the header says. -/
theorem body_length_lt {p : CString} {names : List CString}
    (fits : (page p names).length < MAX_BUFFOR_SIZE) :
    (splitBlankLine (page p names)).2.length < 512 := by
  have whole : (page p names).length =
      blank_response_header.length + (body p names).flatten.length := List.length_append
  unfold MAX_BUFFOR_SIZE at fits
  rw [splitBlankLine_page]
  dsimp only
  omega

/-- A picture request is answered unless there is no memory for `p` or `write` fails, and
then the handler ends the process. -/
theorem ending_eq_returns_iff {written : Bool} {names : List CString}
    (asked : protocol surroundings request = ascii "HTTP/1.1")
    (listing : surroundings.directory = some names) :
    (connection_handler surroundings (.request request) written).ending = .returns ↔
      ¬ (surroundings.malloc (pathSize (url surroundings request)) = none ∨ written = false) := by
  simp only [connection_handler, answer, if_pos asked, listing]
  cases surroundings.malloc (pathSize (url surroundings request)) with
  | none => exact iff_of_false (by simp) (by simp)
  | some block =>
      cases written with
      | false => exact iff_of_false (by simp) (by simp)
      | true => exact iff_of_true rfl (by simp)

theorem sent_of_returns {written : Bool} {names : List CString}
    (asked : protocol surroundings request = ascii "HTTP/1.1")
    (listing : surroundings.directory = some names)
    (returned : (connection_handler surroundings (.request request) written).ending = .returns) :
    (connection_handler surroundings (.request request) written).sent =
      some (page (path (url surroundings request)) names) := by
  obtain ⟨allocated, -⟩ := not_or.mp ((ending_eq_returns_iff asked listing).mp returned)
  rw [sent_handler, sent_of_asked asked, listing, if_pos (Option.isSome_iff_ne_none.mpr allocated)]
  rfl

theorem not_framed_of_returns {written : Bool} {names : List CString}
    (asked : protocol surroundings request = ascii "HTTP/1.1")
    (listing : surroundings.directory = some names)
    (fits : (page (path (url surroundings request)) names).length < MAX_BUFFOR_SIZE)
    (returned : (connection_handler surroundings (.request request) written).ending = .returns)
    (before : DescriptorTable OpenFile) : ¬ Framed before surroundings request written := by
  intro framed
  have short := body_length_lt fits
  have served : serveConnection surroundings request written before = some _ :=
    serveConnection_eq_some_iff.mpr ⟨returned, rfl⟩
  rcases framed.delimited _ (sent_of_returns asked listing returned) with stated | closed
  · rw [contentLength_page] at stated
    have length : (512 : Int) = _ := Option.some.inj stated
    omega
  · have opened := lookup_serveConnection served
    rw [closed _ served] at opened
    cases opened

/-- Only a handler that ends the whole process leaves no connection open. -/
theorem framed_iff {names : List CString} (asked : protocol surroundings request = ascii "HTTP/1.1")
    (listing : surroundings.directory = some names)
    (fits : (page (path (url surroundings request)) names).length < MAX_BUFFOR_SIZE)
    (written : Bool) (before : DescriptorTable OpenFile) :
    Framed before surroundings request written ↔
      surroundings.malloc (pathSize (url surroundings request)) = none ∨ written = false := by
  constructor
  · intro framed
    by_contra served
    exact not_framed_of_returns asked listing fits
      ((ending_eq_returns_iff asked listing).mpr served) before framed
  · intro ended
    have gone (after : DescriptorTable OpenFile)
        (served : after ∈ serveConnection surroundings request written before) : False :=
      (ending_eq_returns_iff asked listing).mp
        (serveConnection_eq_some_iff.mp served).1 ended
    exact ⟨fun text _ => .inr fun after served => (gone after served).elim,
      fun after served => (gone after served).elim⟩

/-- A request for one picture, in a process with its standard streams and its listening
socket open. -/
def pictureRequest : Request := ⟨ascii "GET /mars2.jpg HTTP/1.1\n", by decide, by decide⟩

def freshTable : DescriptorTable OpenFile := ⟨List.replicate 4 (some .other)⟩

theorem framed_iff_picture :
    Framed freshTable (holding [] (some [ascii "mars2.jpg"])) pictureRequest true ↔
      (holding [] (some [ascii "mars2.jpg"])).malloc
          (pathSize (url (holding [] (some [ascii "mars2.jpg"])) pictureRequest)) = none ∨
        true = false := by
  have asked : protocol (holding [] (some [ascii "mars2.jpg"])) pictureRequest =
      ascii "HTTP/1.1" := by decide
  have length : (page (path (url (holding [] (some [ascii "mars2.jpg"])) pictureRequest))
      [ascii "mars2.jpg"]).length = 133 := rfl
  exact framed_iff asked rfl (Nat.lt_of_le_of_lt (Nat.le_of_eq length) (by decide)) true freshTable

theorem picture_connection_stays_open :
    ¬ ∀ (surroundings : Surroundings) (request : Request) (names : List CString) (written : Bool)
      (before : DescriptorTable OpenFile),
      protocol surroundings request = ascii "HTTP/1.1" → surroundings.directory = some names →
      (page (path (url surroundings request)) names).length < MAX_BUFFOR_SIZE →
        Framed before surroundings request written := by
  intro framed
  have asked : protocol (holding [] (some [])) pictureRequest = ascii "HTTP/1.1" := by decide
  have fits : (page (path (url (holding [] (some [])) pictureRequest)) []).length <
      MAX_BUFFOR_SIZE := by decide
  have served : serveConnection (holding [] (some [])) pictureRequest true freshTable = some _ :=
    serveConnection_eq_some_iff.mpr ⟨rfl, rfl⟩
  have released := (framed _ _ _ true freshTable asked rfl fits).released _ served
  rw [openCount_serveConnection served] at released
  omega

end NetworkServices.Http
