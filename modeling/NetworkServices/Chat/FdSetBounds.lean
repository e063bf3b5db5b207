import NetworkServices.Chat.ClientList
import NetworkServices.Foundation.LowestFirst

/-! The size of `fd_set`. The macros take every descriptor that `accept` returns, also
one behind the last bit of the set, so what keeps them inside is the number of clients
that are connected together. -/

set_option autoImplicit false

namespace NetworkServices.Chat

/-- `FD_SETSIZE`. -/
def setSize : Nat := 1024

/-- The descriptors of `FD_ISSET` in the loop over the clients. That of `FD_CLR` is
one of them. -/
def loopAccesses (beyond : List UInt8) : Nat → Nat → State → List Nat
  | 0, _, _ => []
  | count + 1, slot, state =>
      state.element slot ::
        match visitSlot beyond state slot with
        | (_, .running, state) => loopAccesses beyond count (slot + 1) state
        | _ => []

def checkAccesses (server : Server) (watchedSockets : FdSet) (input : Input) : List Nat :=
  server.listenSocketDescriptor ::
    match (checkForNewConnection server watchedSockets input).clients with
    | none => []
    | some clients =>
        loopAccesses input.beyond clients.size 0
          { clients, watchedSockets, messageBuffer := .zeroed 256, answers := input.answers }

/-- The descriptors of all `FD_SET` and `FD_ISSET` of a round, in order. -/
def accesses (server : Server) (input : Input) : List Nat :=
  server.listenSocketDescriptor :: (server.clients.elements ++
    match input.select with
    | .ready reported => checkAccesses server (selected (watch server) reported) input
    | .interrupted => checkAccesses server (watch server).1 input
    | .failed => [])

/-- The runs up to the start of a round, with the accesses of the rounds behind. -/
inductive Served (listening : Nat) : List Event → List Nat → Server → Prop where
  | start : Served listening [] [] ⟨listening, .empty⟩
  | round {history : List Event} {accessed : List Nat} {server : Server} {input : Input} :
      Served listening history accessed server → Unopened listening history input →
      (round server input).control = .running →
      Served listening (history ++ (round server input).events)
        (accessed ++ accesses server input) (round server input).server

theorem Served.run {listening : Nat} {history : List Event} {accessed : List Nat}
    {server : Server} (served : Served listening history accessed server) :
    Run listening history server := by
  induction served with
  | start => exact .start
  | round _ unopened running ih => exact .round ih unopened running

/-!
## The slots that the loop visits
-/

/-- What the loop leaves of the first `count` slots when it shortens the vector. -/
structure Shifted (count : Nat) (clients next : SlotVector Nat) : Prop where
  size_le : next.size ≤ clients.size
  length : next.slots.length = clients.slots.length
  members : ∀ fd ∈ next.slots.take count, fd ∈ clients.slots.take count
  last : ∀ slot, clients.size ≤ slot + 1 → next.slots[slot]? = clients.slots[slot]?

section Loop

variable {beyond : List UInt8} {count slot : Nat} {state : State}

theorem visitSlot_shifted {visit : Visit} {next : State}
    (visited : visitSlot beyond state slot = (visit, .running, next))
    (whole : state.clients.size ≤ count) : Shifted count state.clients next.clients := by
  have same : next.clients = state.clients ∨
      state.clients.eraseValue (state.element slot) = some next.clients := by
    revert visited
    simp only [visitSlot, serveClient]
    split
    · split
      · simp
      · split
        · split
          · next shorter erased =>
              rintro ⟨⟩
              exact .inr erased
          · simp
        · intro visited
          exact .inl (congrArg (·.2.2.clients) visited).symm
        · intro visited
          exact .inl (congrArg (·.2.2.clients) visited).symm
    · rintro ⟨⟩
      exact .inl rfl
  rcases same with same | erased
  · rw [same]
    exact ⟨Nat.le_refl _, rfl, fun fd member => member, fun slot late => rfl⟩
  · obtain ⟨inside, shorter⟩ := SlotVector.eraseValue_eq_some erased
    rw [shorter]
    exact ⟨Nat.sub_le _ _, SlotVector.eraseAt_length inside,
      fun fd member => SlotVector.mem_take_eraseAt inside whole member,
      fun slot late => SlotVector.getElem?_eraseAt inside late⟩

theorem element_mem_take (inside : slot < count) (long : count ≤ state.clients.slots.length) :
    state.element slot ∈ state.clients.slots.take count := by
  rw [State.element, List.getElem?_eq_getElem (by omega), Option.getD_some]
  exact List.mem_take_iff_getElem.mpr ⟨slot, by omega, rfl⟩

theorem mem_of_mem_loopAccesses (whole : state.clients.size ≤ slot + count)
    (long : slot + count ≤ state.clients.slots.length) {fd : Nat}
    (accessed : fd ∈ loopAccesses beyond count slot state) :
    fd ∈ state.clients.slots.take (slot + count) := by
  induction count generalizing slot state with
  | zero => cases accessed
  | succ count ih =>
      rw [loopAccesses] at accessed
      rcases List.mem_cons.mp accessed with rfl | later
      · exact element_mem_take (by omega) long
      · split at later
        · next visit next visited =>
            have shifted := visitSlot_shifted visited whole
            have reach : slot + 1 + count = slot + (count + 1) := by omega
            have before := ih (by rw [reach]; exact shifted.size_le.trans whole)
              (by rw [reach, shifted.length]; exact long) later
            rw [reach] at before
            exact shifted.members fd before
        · cases later

/-- A loop that comes to its end visits the slot that was the last one at its start, and
finds the same descriptor there. -/
theorem element_mem_loopAccesses (whole : state.clients.size ≤ slot + (count + 1))
    (ends : (clientLoop beyond (count + 1) slot state).2.1 = .running) :
    state.element (slot + count) ∈ loopAccesses beyond (count + 1) slot state := by
  induction count generalizing slot state with
  | zero => exact .head _
  | succ count ih =>
      rw [clientLoop] at ends
      rw [loopAccesses]
      rcases visited : visitSlot beyond state slot with ⟨visit, control, next⟩
      rw [visited] at ends
      cases control with
      | running =>
          have shifted := visitSlot_shifted visited whole
          have reach : slot + 1 + count = slot + (count + 1) := by omega
          have size := shifted.size_le
          have last := ih (by omega) ends
          rw [reach, State.element, shifted.last _ (by omega)] at last
          exact .tail _ last
      | exited | blocked | undefined | killed => cases ends

end Loop

/-!
## Rounds and runs
-/

section Round

variable {listening : Nat} {history : List Event} {server : Server} {input : Input}

theorem acquired_mem_events_iff (result : Result) (fd : Nat) :
    .acquired fd ∈ result.events ↔ result.accept = some (some fd) := by
  have closed (visits : List Visit) : .acquired fd ∉ visits.filterMap Visit.event := by
    simp [Visit.event]
  rw [Result.events]
  split
  · next new_socket accepted =>
      rw [accepted, List.mem_cons, or_iff_left (closed _)]
      simp [eq_comm]
  · next unaccepted =>
      exact iff_of_false (closed _) (unaccepted fd)

theorem check_accept (server : Server) (watchedSockets : FdSet) (input : Input) :
    (check server watchedSockets input).accept =
      (checkForNewConnection server watchedSockets input).accept := by
  rw [check]
  split <;> rfl

theorem acquired_of_mem_checkAccesses (agrees : Agrees listening history server)
    {watchedSockets : FdSet} {fd : Nat}
    (accessed : fd ∈ checkAccesses server watchedSockets input) :
    fd = listening ∨ .acquired fd ∈ history ∨
      (check server watchedSockets input).accept = some (some fd) := by
  have connects := checkForNewConnection_connects server watchedSockets input
  have held_acquired {fd : Nat} (member : fd ∈ server.clients.elements) :
      .acquired fd ∈ history := by
    rw [agrees.elements] at member
    exact acquired_of_mem_held member
  rw [check_accept]
  rw [checkAccesses] at accessed
  rcases List.mem_cons.mp accessed with same | later
  · exact .inl (same.trans agrees.listens)
  · generalize checkForNewConnection server watchedSockets input = connection at connects later
    cases connects with
    | failed | unwelcomed => cases later
    | unreported =>
        have visited := mem_of_mem_loopAccesses (by simp)
          (by simpa using server.clients.size_le) later
        rw [Nat.zero_add] at visited
        exact .inr (.inl (held_acquired visited))
    | @joined new_socket =>
        have visited := mem_of_mem_loopAccesses (by simp)
          (by simpa using (server.clients.pushBack new_socket).size_le) later
        rw [Nat.zero_add] at visited
        change fd ∈ (server.clients.pushBack new_socket).elements at visited
        rw [SlotVector.elements_pushBack] at visited
        rcases List.mem_append.mp visited with old | new
        · exact .inr (.inl (held_acquired old))
        · obtain rfl := List.mem_singleton.mp new
          exact .inr (.inr rfl)

theorem acquired_of_mem_accesses (agrees : Agrees listening history server) {fd : Nat}
    (accessed : fd ∈ accesses server input) :
    fd = listening ∨ .acquired fd ∈ history ++ (round server input).events := by
  rw [List.mem_append, acquired_mem_events_iff, round]
  rw [accesses] at accessed
  rcases List.mem_cons.mp accessed with same | later
  · exact .inl (same.trans agrees.listens)
  · rcases List.mem_append.mp later with watched | checked
    · rw [agrees.elements] at watched
      exact .inr (.inl (acquired_of_mem_held watched))
    · cases select : input.select with
      | ready reported =>
          rw [select] at checked
          exact acquired_of_mem_checkAccesses agrees checked
      | interrupted =>
          rw [select] at checked
          exact acquired_of_mem_checkAccesses agrees checked
      | failed =>
          rw [select] at checked
          cases checked

theorem mem_checkAccesses_of_accept {watchedSockets : FdSet} {fd : Nat}
    (accepted : (check server watchedSockets input).accept = some (some fd))
    (ends : (check server watchedSockets input).control = .running) :
    fd ∈ checkAccesses server watchedSockets input := by
  have connects := checkForNewConnection_connects server watchedSockets input
  rw [check_accept] at accepted
  rw [check] at ends
  rw [checkAccesses]
  generalize checkForNewConnection server watchedSockets input = connection at *
  cases connects with
  | unreported | failed => cases accepted
  | unwelcomed => cases ends
  | joined =>
      cases accepted
      have last := @element_mem_loopAccesses input.beyond server.clients.size 0
        ⟨server.clients.pushBack fd, watchedSockets, .zeroed 256, input.answers⟩ (by simp) ends
      have stored : State.element ⟨server.clients.pushBack fd, watchedSockets, .zeroed 256,
          input.answers⟩ (0 + server.clients.size) = fd := by
        simp [State.element, SlotVector.pushBack, ← SlotVector.length_elements]
      rw [stored] at last
      exact .tail _ last

theorem mem_accesses_of_acquired {fd : Nat}
    (acquired : .acquired fd ∈ (round server input).events)
    (ends : (round server input).control = .running) : fd ∈ accesses server input := by
  rw [acquired_mem_events_iff] at acquired
  rw [round] at acquired ends
  rw [accesses]
  refine .tail _ (List.mem_append_right _ ?_)
  cases select : input.select with
  | ready reported =>
      rw [select] at acquired ends
      exact mem_checkAccesses_of_accept acquired ends
  | interrupted =>
      rw [select] at acquired ends
      exact mem_checkAccesses_of_accept acquired ends
  | failed =>
      rw [select] at acquired
      cases acquired

end Round

section Served

variable {listening : Nat} {history : List Event} {accessed : List Nat} {server : Server}

theorem Served.acquired_of_accessed (served : Served listening history accessed server) {fd : Nat}
    (member : fd ∈ accessed) : fd = listening ∨ .acquired fd ∈ history := by
  induction served with
  | start => cases member
  | round before unopened running ih =>
      rcases List.mem_append.mp member with earlier | last
      · exact (ih earlier).imp_right (List.mem_append_left _)
      · exact acquired_of_mem_accesses before.run.agrees last

theorem Served.accessed_of_acquired (served : Served listening history accessed server) {fd : Nat}
    (acquired : .acquired fd ∈ history) : fd ∈ accessed := by
  induction served with
  | start => cases acquired
  | round before unopened running ih =>
      rcases List.mem_append.mp acquired with earlier | last
      · exact List.mem_append_left _ (ih earlier)
      · exact List.mem_append_right _ (mem_accesses_of_acquired last running)

/-- Where `accept` returns the lowest descriptor that is not open, the rounds behind never
left the set exactly when the clients that were connected together always fitted into
it, and neither does the next round, whichever way it ends. -/
theorem accesses_inside_iff (served : Served listening history accessed server)
    (opened : listening < setSize) (lowest : LowestFirst (listening + 1) history) :
    ((∀ fd ∈ accessed, fd < setSize) ↔ HeldBelow (listening + 1) setSize history) ∧
      ∀ input, LowestFirst (listening + 1) (history ++ (round server input).events) →
        HeldBelow (listening + 1) setSize (history ++ (round server input).events) →
        ∀ fd ∈ accesses server input, fd < setSize := by
  constructor
  · rw [← lowest.acquired_lt_iff opened]
    constructor
    · intro inside fd acquired
      exact inside fd (served.accessed_of_acquired acquired)
    · intro below fd member
      rcases served.acquired_of_accessed member with rfl | acquired
      · exact opened
      · exact below fd acquired
  · intro input later together fd member
    rcases acquired_of_mem_accesses served.run.agrees member with rfl | acquired
    · exact opened
    · exact (later.acquired_lt_iff opened).mpr together fd acquired

end Served

/-- Client 4 leaves, and the next client gets its descriptor. -/
theorem accesses_inside_reused :
    HeldBelow 4 setSize [.acquired 4, .acquired 5, .released 4, .acquired 4] := by
  have unopened (history : List Event) (input : Input)
      (new : ∀ fd ∈ input.accepted, fd ≠ 3 ∧ fd ∉ held history) : Unopened 3 history input := new
  have first := @Served.round 3 [] [] ⟨3, .empty⟩ (joining 4) .start
    (unopened _ _ (by decide)) rfl
  have second := @Served.round 3 _ _ _ (joining 5) first (unopened _ _ (by decide)) rfl
  have third := @Served.round 3 _ _ _ (reporting [4] [.finished]) second
    (unopened _ _ (by decide)) rfl
  have fourth := @Served.round 3 _ _ _ (joining 4) third (unopened _ _ (by decide)) rfl
  have lowest : LowestFirst 4 [.acquired 4, .acquired 5, .released 4, .acquired 4] := by
    simp only [LowestFirst, follows_cons_iff, follows_nil, and_true]
    refine ⟨?_, ?_, ?_, ?_⟩ <;> rintro number ⟨⟩
    · exact ⟨by decide, by decide, by omega⟩
    · exact ⟨by decide, by decide, fun lower low high => by
        obtain rfl : lower = 4 := by omega
        decide⟩
    · exact ⟨by decide, by decide, by omega⟩
  exact (accesses_inside_iff fourth (by decide) lowest).1.mp (by decide)

end NetworkServices.Chat
