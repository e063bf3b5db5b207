import NetworkServices.Http.Handler

/-! Which stores of `connection_handler` stay inside their arrays. The terminator of `p`
never does, and each of the other arrays has a limit that nothing enforces. -/

set_option autoImplicit false

namespace NetworkServices.Http

variable {surroundings : Surroundings} {request : Request}

section Words

/-- A word that was found leaves room for its terminator, and an array into which none was
stored happens to hold a terminator. -/
def WordFits (word : Option CString) (array : Uninitialised WORD_SIZE) : Prop :=
  (∀ found ∈ word, found.length < WORD_SIZE) ∧ (word = none → 0 ∈ array.buffer.bytes)

variable {word : Option CString} {array : Uninitialised WORD_SIZE}

theorem inside_terminate (target : Target) (text : CString) :
    (terminate target text).Inside ↔ text.length < WORD_SIZE :=
  inside_iff text.length 1

theorem wordFits_iff (target : Target) :
    AllInside (scanStores target word) ∧ (terminate target (scanned word array)).Inside ↔
      WordFits word array := by
  rw [inside_terminate]
  cases word with
  | none =>
      have noStore : AllInside (scanStores target none) := allInside_nil
      have unchanged : (scanned none array).length < WORD_SIZE ↔ 0 ∈ array.buffer.bytes :=
        array.buffer.text_length_lt_iff array.beyond
      rw [and_iff_right noStore, unchanged]
      constructor
      · intro terminated
        exact ⟨fun found member => absurd member (Option.not_mem_none found), fun _ => terminated⟩
      · intro fits
        exact fits.2 rfl
  | some found =>
      have stored : AllInside (scanStores target (some found)) ↔ found.length < WORD_SIZE := by
        unfold scanStores
        rw [Option.toList_some, List.map_singleton, allInside_cons, inside_storeText,
          and_iff_left allInside_nil]
      rw [stored]
      constructor
      · intro fits
        exact ⟨fun other same => Option.mem_some.1 same ▸ fits.1, fun missing => by cases missing⟩
      · intro fits
        exact ⟨fits.1 found rfl, fits.1 found rfl⟩

theorem allInside_wordStores :
    AllInside (wordStores surroundings request) ↔
      WordFits (words request)[0]? surroundings.method ∧
        WordFits (words request)[1]? surroundings.url ∧
          WordFits (words request)[2]? surroundings.protocol := by
  rw [← wordFits_iff .method, ← wordFits_iff .url, ← wordFits_iff .protocol]
  unfold wordStores method url protocol
  simp only [allInside_append, allInside_cons, and_iff_left allInside_nil]
  constructor
  · intro inside
    obtain ⟨⟨⟨method, url⟩, protocol⟩, methodEnd, urlEnd, protocolEnd⟩ := inside
    exact ⟨⟨method, methodEnd⟩, ⟨url, urlEnd⟩, protocol, protocolEnd⟩
  · intro fit
    obtain ⟨⟨method, methodEnd⟩, ⟨url, urlEnd⟩, protocol, protocolEnd⟩ := fit
    exact ⟨⟨⟨method, url⟩, protocol⟩, methodEnd, urlEnd, protocolEnd⟩

end Words

section Path

theorem pathSize_le (url : CString) : pathSize url ≤ url.length - 1 ∨ url = [] := by
  cases url with
  | nil => exact .inr rfl
  | cons char rest =>
      left
      unfold pathSize
      rw [List.length_cons, UInt64.toNat_sub, UInt64.toNat_ofNat']
      dsimp only [UInt64.reduceToNat]
      omega

/-- The terminator of `p` lies behind the block, and in front of it when `url` is empty. -/
theorem not_allInside_pathStores (url : CString) (block : List UInt8) :
    ¬ AllInside (pathStores url block) := by
  intro inside
  have terminator := inside ⟨.p, pathSize url, (url.length : Int) - 1, 1⟩
    (List.mem_append_right _ List.mem_cons_self)
  obtain ⟨lower, upper⟩ := terminator
  dsimp only at lower upper
  rcases pathSize_le url with bounded | empty
  · omega
  · rw [empty] at lower
    cases lower

theorem object_pathStores {url : CString} {block : List UInt8} {store : Store Target}
    (member : store ∈ pathStores url block) : store.object = .p := by
  unfold pathStores at member
  rcases List.mem_append.1 member with earlier | last
  · rcases List.mem_cons.1 earlier with first | copied
    · exact first ▸ rfl
    · obtain ⟨_, _, same⟩ := List.mem_map.1 copied
      exact same ▸ rfl
  · exact List.mem_singleton.1 last ▸ rfl

end Path

section Page

theorem inside_clear : clear.Inside := by
  decide

theorem allInside_pageStores (p : CString) (names : List CString) :
    AllInside (pageStores p names) ↔ (page p names).length < MAX_BUFFOR_SIZE := by
  have header : blank_response_header.length < MAX_BUFFOR_SIZE := by decide
  have whole : (page p names).length =
      blank_response_header.length + (body p names).flatten.length := List.length_append
  unfold pageStores
  rw [allInside_append, allInside_append, allInside_appendTexts header, ← whole, allInside_cons,
    allInside_cons, allInside_cons, inside_storeText, inside_iff]
  constructor
  · intro inside
    exact inside.1.2
  · intro fits
    exact ⟨⟨⟨inside_clear, header, allInside_nil⟩, fits⟩, fits, allInside_nil⟩

theorem object_pageStores {p : CString} {names : List CString} {store : Store Target}
    (member : store ∈ pageStores p names) : store.object = .buff_send := by
  unfold pageStores at member
  rcases List.mem_append.1 member with earlier | last
  · rcases List.mem_append.1 earlier with first | appended
    · rcases List.mem_pair.1 first with same | same
      · exact same ▸ rfl
      · exact same ▸ rfl
    · exact object_appendTexts appended
  · exact List.mem_singleton.1 last ▸ rfl

end Page

section Handler

structure Fits (surroundings : Surroundings) (request : Request) : Prop where
  message : request.bytes.length < MAX_CLIENT_MESSAGE
  method : WordFits (words request)[0]? surroundings.method
  url : WordFits (words request)[1]? surroundings.url
  protocol : WordFits (words request)[2]? surroundings.protocol
  /-- No block is written to: it is not an HTTP/1.1 request, or there is no memory. -/
  path : Http.protocol surroundings request = ascii "HTTP/1.1" →
    surroundings.malloc (pathSize (Http.url surroundings request)) = none

theorem allInside_receiveStores :
    AllInside (receiveStores request) ↔ request.bytes.length < MAX_CLIENT_MESSAGE := by
  have fits := request.fits
  unfold receiveStores
  rw [allInside_cons, allInside_cons, and_iff_left allInside_nil, inside_iff]
  unfold Store.Inside
  dsimp only
  omega

theorem allInside_answer :
    AllInside (answer surroundings request).1 ↔
      (protocol surroundings request = ascii "HTTP/1.1" →
        surroundings.malloc (pathSize (url surroundings request)) = none) := by
  unfold answer
  split
  case isFalse other => exact iff_of_true allInside_nil fun same => absurd same other
  case isTrue asked =>
    cases surroundings.malloc (pathSize (url surroundings request)) with
    | none => exact iff_of_true allInside_nil fun _ => rfl
    | some block =>
        refine iff_of_false (fun inside => ?_) fun failed => ?_
        · cases opened : surroundings.directory with
          | none =>
              rw [opened] at inside
              exact not_allInside_pathStores _ block inside
          | some names =>
              rw [opened] at inside
              exact not_allInside_pathStores _ block (allInside_append.1 inside).1
        · cases failed asked

theorem allInside_handler (written : Bool) :
    AllInside (connection_handler surroundings (.request request) written).stores ↔
      AllInside (receiveStores request) ∧ AllInside (wordStores surroundings request) ∧
        AllInside (answer surroundings request).1 := by
  have clearing : AllInside [clear] := allInside_cons.2 ⟨inside_clear, allInside_nil⟩
  unfold connection_handler
  dsimp only
  rcases answer surroundings request with ⟨stored, answered⟩
  have whole : AllInside (receiveStores request ++ wordStores surroundings request ++ stored) ↔
      AllInside (receiveStores request) ∧ AllInside (wordStores surroundings request) ∧
        AllInside stored := by
    rw [allInside_append, allInside_append, and_assoc]
  cases answered with
  | exits => exact whole
  | crashes => exact whole
  | reply text =>
      cases written with
      | false => exact whole
      | true => exact allInside_append.trans ((and_iff_left clearing).trans whole)

theorem buff_send_inside_iff {block : List UInt8} {names : List CString}
    (asked : protocol surroundings request = ascii "HTTP/1.1")
    (allocated : surroundings.malloc (pathSize (url surroundings request)) = some block)
    (opened : surroundings.directory = some names) :
    (∀ store ∈ (answer surroundings request).1, store.object = .buff_send → store.Inside) ↔
      (page (path (url surroundings request)) names).length < MAX_BUFFOR_SIZE := by
  rw [← allInside_pageStores]
  unfold answer
  rw [if_pos asked, allocated, opened]
  dsimp only
  constructor
  · intro inside store member
    exact inside store (List.mem_append_right _ member) (object_pageStores member)
  · intro inside store member target
    rcases List.mem_append.1 member with ofPath | ofPage
    · rw [object_pathStores ofPath] at target
      cases target
    · exact inside store ofPage

/-- Every store of the handler stays inside exactly if the request and the texts it leaves
unread fit, and nothing is copied to `p`. -/
theorem stores_inside_iff (surroundings : Surroundings) (request : Request) (written : Bool) :
    AllInside (connection_handler surroundings (.request request) written).stores ↔
      Fits surroundings request := by
  rw [allInside_handler, allInside_receiveStores, allInside_wordStores, allInside_answer]
  constructor
  · intro inside
    obtain ⟨message, ⟨method, url, protocol⟩, path⟩ := inside
    exact ⟨message, method, url, protocol, path⟩
  · intro fits
    exact ⟨fits.message, ⟨fits.method, fits.url, fits.protocol⟩, fits.path⟩

/-- A request for one picture, in a process whose memory is clear. -/
theorem path_terminator_outside :
    ¬ AllInside (connection_handler
      { method := ⟨.zeroed 256, []⟩, url := ⟨.zeroed 256, []⟩, protocol := ⟨.zeroed 256, []⟩
        buff_send := ⟨.zeroed 512, []⟩, malloc := fun size => some (List.replicate size 0)
        directory := some [ascii "mars2.jpg"] }
      (.request ⟨ascii "GET /mars2.jpg HTTP/1.1\n", by decide, by decide⟩) true).stores := by
  decide

end Handler

end NetworkServices.Http
