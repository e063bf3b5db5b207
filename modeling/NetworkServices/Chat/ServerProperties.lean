import NetworkServices.Chat.Server

/-! What one slot of the loop over the clients can do, and what the loop keeps: the
vector is shortened while its old slots are still visited, but a descriptor that is
watched is never one that has been closed. -/

set_option autoImplicit false

namespace NetworkServices.Chat

/-!
## Watched descriptors
-/

theorem watchLoop_iff (watched : FdSet × Nat) (elements : List Nat) (fd : Nat) :
    (watchLoop watched elements).1 fd = true ↔ watched.1 fd = true ∨ fd ∈ elements := by
  induction elements generalizing watched with
  | nil => simp [watchLoop]
  | cons element rest ih =>
      rw [watchLoop, ih, List.mem_cons, ← or_assoc]
      refine or_congr_left ?_
      by_cases same : fd = element <;> simp [same]

theorem watchLoop_le {watched : FdSet × Nat} {elements : List Nat}
    (bounded : ∀ fd, watched.1 fd = true → fd ≤ watched.2) {fd : Nat}
    (inside : (watchLoop watched elements).1 fd = true) :
    fd ≤ (watchLoop watched elements).2 := by
  induction elements generalizing watched with
  | nil => exact bounded fd inside
  | cons element rest ih =>
      refine ih (fun other member => ?_) inside
      by_cases same : other = element
      · split <;> omega
      · simp only [Function.update_of_ne same] at member
        have bound := bounded other member
        split <;> omega

theorem watch_iff (server : Server) (fd : Nat) :
    (watch server).1 fd = true ↔
      fd = server.listenSocketDescriptor ∨ fd ∈ server.clients.elements := by
  rw [watch, watchLoop_iff]
  refine or_congr_left ?_
  by_cases same : fd = server.listenSocketDescriptor <;> simp [same]

theorem watch_le {server : Server} {fd : Nat} (watched : (watch server).1 fd = true) :
    fd ≤ (watch server).2 := by
  refine watchLoop_le (fun other member => ?_) watched
  by_cases same : other = server.listenSocketDescriptor
  · exact Nat.le_of_eq same
  · simp [same] at member

theorem selected_watch_iff (server : Server) (reported : FdSet) (fd : Nat) :
    selected (watch server) reported fd = true ↔
      (fd = server.listenSocketDescriptor ∨ fd ∈ server.clients.elements) ∧
        reported fd = true := by
  rw [selected, Bool.and_eq_true, Bool.and_eq_true, decide_eq_true_eq, ← watch_iff]
  exact and_congr_left fun _ => and_iff_left_of_imp fun watched =>
    Nat.lt_succ_of_le (watch_le watched)

theorem selected_watch_listening (server : Server) (reported : FdSet) :
    selected (watch server) reported server.listenSocketDescriptor =
      reported server.listenSocketDescriptor := by
  rw [Bool.eq_iff_iff, selected_watch_iff]
  exact and_iff_right (.inl rfl)

theorem watch_listening (server : Server) :
    (watch server).1 server.listenSocketDescriptor = true :=
  (watch_iff server _).mpr (.inl rfl)

/-!
## One broadcast
-/

section Broadcast

variable {clients : SlotVector Nat} {element : Nat}

theorem length_others (nodup : clients.elements.Nodup) (member : element ∈ clients.elements) :
    (clients.elements.filter (· ≠ element)).length + 1 = clients.size := by
  have others : clients.elements.filter (· ≠ element) = clients.elements.erase element := by
    rw [nodup.erase_eq_filter]
    refine List.filter_congr fun other _ => ?_
    by_cases same : other = element <;> simp [same]
  have positive := List.length_pos_of_mem member
  rw [others, List.length_erase_of_mem member]
  rw [clients.length_elements] at positive ⊢
  omega

theorem broadcast_control (clients : SlotVector Nat) (element : Nat) (text : CString)
    (broken : Option Nat) :
    (broadcast clients element text broken).2 = .running ∨
      (broadcast clients element text broken).2 = .killed := by
  cases broken with
  | none => exact .inl rfl
  | some call =>
      rw [broadcast]
      dsimp only
      split
      · exact .inr rfl
      · exact .inl rfl

/-- A closed connection is found only by a call that is made. -/
theorem broadcast_killed_iff (nodup : clients.elements.Nodup)
    (member : element ∈ clients.elements) (text : CString) (broken : Option Nat) :
    (broadcast clients element text broken).2 ≠ .running ↔
      ∃ call ∈ broken, call + 1 < clients.size := by
  have size := length_others nodup member
  cases broken with
  | none => exact iff_of_false (fun killed => killed rfl) (by simp)
  | some call =>
      have bound : (∃ other ∈ some call, other + 1 < clients.size) ↔ call + 1 < clients.size := by
        simp
      rw [bound, ← size, Nat.add_lt_add_iff_right, broadcast]
      dsimp only
      rw [List.length_map]
      split
      · exact iff_of_true (by decide) ‹_›
      · exact iff_of_false (fun killed => killed rfl) ‹_›

end Broadcast

/-!
## One slot
-/

/-- What the loop keeps while it visits the first `count` slots. -/
structure Invariant (count : Nat) (state : State) : Prop where
  size_le : state.clients.size ≤ count
  count_le : count ≤ state.clients.slots.length
  nodup : state.clients.elements.Nodup
  /-- A slot may be stale, but its descriptor is watched only while it is open. -/
  live : ∀ fd ∈ state.clients.slots.take count, state.watchedSockets fd = true →
    fd ∈ state.clients.elements

inductive Step (beyond : List UInt8) (state : State) (slot : Nat) :
    Visit → Control → State → Prop where
  | skipped :
      state.watchedSockets (state.element slot) = false →
      Step beyond state slot ⟨slot, state.clients.size, none, [], none⟩ .running state
  | pending :
      state.watchedSockets (state.element slot) = true → state.answers = [] →
      Step beyond state slot
        ⟨slot, state.clients.size, some (state.element slot, none), [], none⟩ .blocked state
  | left {shorter : SlotVector Nat} {broken : Option Nat} {answers : List Answer} :
      state.watchedSockets (state.element slot) = true →
      state.answers = ⟨.finished, broken⟩ :: answers →
      state.element slot ∈ state.clients.elements →
      SlotVector.Erased state.clients (state.element slot) shorter →
      Step beyond state slot
        ⟨slot, state.clients.size, some (state.element slot, some .finished), [],
          some (state.element slot)⟩ .running
        ⟨shorter, Function.update state.watchedSockets (state.element slot) false,
          state.messageBuffer, answers⟩
  | wrote {bytes : List UInt8} {broken : Option Nat} {answers : List Answer}
      {sent : List (Nat × CString)} {control : Control} :
      state.watchedSockets (state.element slot) = true →
      state.answers = ⟨.data bytes, broken⟩ :: answers →
      state.element slot ∈ state.clients.elements →
      broadcast state.clients (state.element slot)
        ((state.messageBuffer.receive bytes).text beyond) broken = (sent, control) →
      Step beyond state slot
        ⟨slot, state.clients.size, some (state.element slot, some (.data bytes)), sent, none⟩
        control
        ⟨state.clients, state.watchedSockets, state.messageBuffer.receive bytes, answers⟩
  | failed {broken : Option Nat} {answers : List Answer} {sent : List (Nat × CString)}
      {control : Control} :
      state.watchedSockets (state.element slot) = true →
      state.answers = ⟨.failed, broken⟩ :: answers →
      state.element slot ∈ state.clients.elements →
      broadcast state.clients (state.element slot) (state.messageBuffer.text beyond) broken =
        (sent, control) →
      Step beyond state slot
        ⟨slot, state.clients.size, some (state.element slot, some .failed), sent, none⟩ control
        ⟨state.clients, state.watchedSockets, state.messageBuffer, answers⟩

section Slot

variable {beyond : List UInt8} {count slot : Nat} {state : State}

/-- A watched slot holds a client that is still connected, so `find` finds it. -/
theorem Invariant.element_mem (invariant : Invariant count state) (inside : slot < count)
    (watched : state.watchedSockets (state.element slot) = true) :
    state.element slot ∈ state.clients.elements := by
  refine invariant.live _ ?_ watched
  have bound : slot < state.clients.slots.length := Nat.lt_of_lt_of_le inside invariant.count_le
  rw [State.element, List.getElem?_eq_getElem bound, Option.getD_some]
  exact List.mem_take_iff_getElem.mpr ⟨slot, by omega, rfl⟩

theorem Invariant.visitSlot (invariant : Invariant count state) (inside : slot < count)
    (beyond : List UInt8) :
    ∃ visit control next, visitSlot beyond state slot = (visit, control, next) ∧
      Step beyond state slot visit control next := by
  cases watched : state.watchedSockets (state.element slot) with
  | false =>
      refine ⟨_, _, _, ?_, .skipped watched⟩
      simp only [Chat.visitSlot, watched]
      rfl
  | true =>
      have member := invariant.element_mem inside watched
      match remaining : state.answers with
      | [] =>
          refine ⟨_, _, _, ?_, .pending watched remaining⟩
          simp only [Chat.visitSlot, watched, remaining, if_true]
      | ⟨.finished, broken⟩ :: answers =>
          obtain ⟨shorter, erased, facts⟩ := SlotVector.eraseValue_of_mem member
          refine ⟨_, _, _, ?_, .left watched remaining member facts⟩
          simp only [Chat.visitSlot, watched, remaining, if_true, serveClient, erased]
      | ⟨.data bytes, broken⟩ :: answers =>
          refine ⟨_, _, _, ?_, .wrote watched remaining member (Prod.eta _).symm⟩
          simp only [Chat.visitSlot, watched, remaining, if_true, serveClient]
      | ⟨.failed, broken⟩ :: answers =>
          refine ⟨_, _, _, ?_, .failed watched remaining member (Prod.eta _).symm⟩
          simp only [Chat.visitSlot, watched, remaining, if_true, serveClient]

theorem Invariant.step {next : State} {visit : Visit} {control : Control}
    (invariant : Invariant count state) (step : Step beyond state slot visit control next) :
    Invariant count next := by
  cases step with
  | skipped | pending => exact invariant
  | wrote | failed => exact ⟨invariant.size_le, invariant.count_le, invariant.nodup, invariant.live⟩
  | @left shorter broken answers watched remaining member erased =>
      have smaller : shorter.size ≤ count := by
        have sizes := erased.size
        have bound := invariant.size_le
        omega
      refine ⟨smaller, ?_, ?_, fun fd stale watched => ?_⟩
      · rw [erased.length]
        exact invariant.count_le
      · rw [erased.elements]
        exact invariant.nodup.erase _
      · by_cases same : fd = state.element slot
        · simp [same] at watched
        · simp only [Function.update_of_ne same] at watched
          rw [erased.elements, List.mem_erase_of_ne same]
          exact invariant.live fd (erased.slots count invariant.size_le fd stale) watched

theorem Step.sublist {next : State} {visit : Visit} {control : Control}
    (step : Step beyond state slot visit control next) :
    next.clients.elements.Sublist state.clients.elements := by
  cases step with
  | skipped | pending | wrote | failed => exact .refl _
  | left watched remaining member erased =>
      rw [erased.elements]
      exact List.erase_sublist

theorem Step.control {next : State} {visit : Visit} {control : Control}
    (step : Step beyond state slot visit control next) :
    control = .running ∨ control = .blocked ∨ control = .killed := by
  cases step with
  | skipped | left => exact .inl rfl
  | pending => exact .inr (.inl rfl)
  | wrote _ _ _ sent | failed _ _ _ sent =>
      have ends := broadcast_control state.clients (state.element slot)
      exact (congrArg Prod.snd sent ▸ ends _ _).imp_right .inr

end Slot

/-!
## The loop
-/

inductive Steps (beyond : List UInt8) :
    Nat → Nat → State → List Visit → Control → State → Prop where
  | done (slot : Nat) (state : State) : Steps beyond 0 slot state [] .running state
  | next {count slot : Nat} {state middle final : State} {visit : Visit} {visits : List Visit}
      {control : Control} :
      Step beyond state slot visit .running middle →
      Steps beyond count (slot + 1) middle visits control final →
      Steps beyond (count + 1) slot state (visit :: visits) control final
  | stopped {count slot : Nat} {state final : State} {visit : Visit} {control : Control} :
      Step beyond state slot visit control final → control ≠ .running →
      Steps beyond (count + 1) slot state [visit] control final

theorem Invariant.clientLoop {whole count slot : Nat} {state : State}
    (invariant : Invariant whole state) (inside : slot + count = whole) (beyond : List UInt8) :
    Steps beyond count slot state (clientLoop beyond count slot state).1
      (clientLoop beyond count slot state).2.1 (clientLoop beyond count slot state).2.2 := by
  induction count generalizing slot state with
  | zero => exact .done slot state
  | succ count ih =>
      have early : slot < whole := by omega
      obtain ⟨visit, control, next, visited, step⟩ := invariant.visitSlot early beyond
      rw [Chat.clientLoop, visited]
      by_cases running : control = .running
      · subst running
        exact .next step (ih (invariant.step step) (by omega))
      · cases control with
        | running => exact absurd rfl running
        | exited | blocked | undefined | killed => exact .stopped step running

theorem Steps.sublist {beyond : List UInt8} {count slot : Nat} {state final : State}
    {visits : List Visit} {control : Control}
    (steps : Steps beyond count slot state visits control final) :
    final.clients.elements.Sublist state.clients.elements := by
  induction steps with
  | done => exact .refl _
  | next step _ ih => exact ih.trans step.sublist
  | stopped step => exact step.sublist

theorem Step.answers_suffix {beyond : List UInt8} {slot : Nat} {state next : State}
    {visit : Visit} {control : Control} (step : Step beyond state slot visit control next) :
    next.answers <:+ state.answers := by
  cases step with
  | skipped | pending => exact List.suffix_rfl
  | left _ remaining | wrote _ remaining | failed _ remaining =>
      rw [remaining]
      exact List.suffix_cons _ _

/-- The answers are taken in order; the loop leaves the rest of them. -/
theorem Steps.answers_suffix {beyond : List UInt8} {count slot : Nat} {state final : State}
    {visits : List Visit} {control : Control}
    (steps : Steps beyond count slot state visits control final) :
    final.answers <:+ state.answers := by
  induction steps with
  | done => exact List.suffix_rfl
  | next step _ ih => exact ih.trans step.answers_suffix
  | stopped step => exact step.answers_suffix

theorem invariant_start {clients : SlotVector Nat} (nodup : clients.elements.Nodup)
    (watchedSockets : FdSet) (answers : List Answer) :
    Invariant clients.size ⟨clients, watchedSockets, .zeroed 256, answers⟩ :=
  ⟨Nat.le_refl _, clients.size_le, nodup, fun _ member _ => member⟩

/-!
## Rounds
-/

/-- The clients are distinct descriptors, and none is the listening socket. -/
structure Server.Valid (server : Server) : Prop where
  nodup : server.clients.elements.Nodup
  notListening : server.listenSocketDescriptor ∉ server.clients.elements

def Fresh (server : Server) (input : Input) : Prop :=
  ∀ fd ∈ input.accepted, fd ≠ server.listenSocketDescriptor ∧ fd ∉ server.clients.elements

inductive Connects (server : Server) (watchedSockets : FdSet) (input : Input) :
    Connection → Prop where
  | unreported :
      watchedSockets server.listenSocketDescriptor = false →
      Connects server watchedSockets input ⟨none, [], some server.clients⟩
  | failed :
      watchedSockets server.listenSocketDescriptor = true → input.accepted = none →
      Connects server watchedSockets input ⟨some none, [], none⟩
  | unwelcomed {new_socket : Nat} :
      watchedSockets server.listenSocketDescriptor = true → input.accepted = some new_socket →
      input.welcomed = false →
      Connects server watchedSockets input
        ⟨some (some new_socket), [(new_socket, welcomeMessage)], none⟩
  | joined {new_socket : Nat} :
      watchedSockets server.listenSocketDescriptor = true → input.accepted = some new_socket →
      input.welcomed = true →
      Connects server watchedSockets input
        ⟨some (some new_socket), [(new_socket, welcomeMessage)],
          some (server.clients.pushBack new_socket)⟩

theorem checkForNewConnection_connects (server : Server) (watchedSockets : FdSet)
    (input : Input) :
    Connects server watchedSockets input
      (checkForNewConnection server watchedSockets input) := by
  rw [checkForNewConnection]
  cases listening : watchedSockets server.listenSocketDescriptor with
  | false => exact .unreported listening
  | true =>
      cases accepted : input.accepted with
      | none => exact .failed listening accepted
      | some new_socket =>
          cases welcomed : input.welcomed with
          | false => exact .unwelcomed listening accepted welcomed
          | true => exact .joined listening accepted welcomed

theorem Connects.valid {server : Server} {watchedSockets : FdSet} {input : Input}
    {connection : Connection} (connects : Connects server watchedSockets input connection)
    (valid : server.Valid) (fresh : Fresh server input) :
    ∀ clients ∈ connection.clients,
      Server.Valid { server with clients } := by
  intro clients remaining
  cases connects with
  | unreported =>
      cases remaining
      exact valid
  | failed | unwelcomed => cases remaining
  | joined _ accepted _ =>
      cases remaining
      obtain ⟨notListening, unused⟩ := fresh _ accepted
      refine ⟨?_, ?_⟩
      · simp only [SlotVector.elements_pushBack, ← List.concat_eq_append]
        exact valid.nodup.concat unused
      · simp only [SlotVector.elements_pushBack, List.mem_append, List.mem_singleton, not_or]
        exact ⟨valid.notListening, notListening.symm⟩

theorem check_valid {server : Server} (valid : server.Valid) {input : Input}
    (fresh : Fresh server input) (watchedSockets : FdSet) :
    (check server watchedSockets input).server.Valid := by
  have connects := checkForNewConnection_connects server watchedSockets input
  rw [check]
  cases remaining : (checkForNewConnection server watchedSockets input).clients with
  | none => exact valid
  | some clients =>
      have joined := connects.valid valid fresh clients remaining
      have steps := (invariant_start joined.nodup watchedSockets input.answers).clientLoop
        (Nat.zero_add _) input.beyond
      exact ⟨joined.nodup.sublist steps.sublist,
        fun member => joined.notListening (steps.sublist.subset member)⟩

theorem round_valid {server : Server} (valid : server.Valid) {input : Input}
    (fresh : Fresh server input) : (round server input).server.Valid := by
  rw [round]
  split
  · exact check_valid valid fresh _
  · exact check_valid valid fresh _
  · exact valid

theorem check_unread_suffix {server : Server} (valid : server.Valid) {input : Input}
    (fresh : Fresh server input) (watchedSockets : FdSet) :
    (check server watchedSockets input).unread <:+ input.answers := by
  have connects := checkForNewConnection_connects server watchedSockets input
  rw [check]
  cases remaining : (checkForNewConnection server watchedSockets input).clients with
  | none => exact List.suffix_rfl
  | some clients =>
      have joined := connects.valid valid fresh clients remaining
      have invariant := invariant_start joined.nodup watchedSockets input.answers
      exact (invariant.clientLoop (Nat.zero_add _) input.beyond).answers_suffix

/-- In every round the answers are those of the calls that returned, and the unread. -/
theorem round_unread_suffix {server : Server} (valid : server.Valid) {input : Input}
    (fresh : Fresh server input) : (round server input).unread <:+ input.answers := by
  rw [round]
  split
  · exact check_unread_suffix valid fresh _
  · exact check_unread_suffix valid fresh _
  · exact List.suffix_rfl

/-- The states at the start of a round, from the first one on. -/
inductive Reachable (listenSocketDescriptor : Nat) : Server → Prop where
  | start : Reachable listenSocketDescriptor ⟨listenSocketDescriptor, .empty⟩
  | round {server : Server} {input : Input} :
      Reachable listenSocketDescriptor server → Fresh server input →
      (round server input).control = .running →
      Reachable listenSocketDescriptor (round server input).server

theorem Reachable.valid {listenSocketDescriptor : Nat} {server : Server}
    (reachable : Reachable listenSocketDescriptor server) : server.Valid := by
  induction reachable with
  | start => exact ⟨List.nodup_nil, List.not_mem_nil⟩
  | round _ fresh _ ih => exact round_valid ih fresh

def joining (fd : Nat) : Input :=
  { select := .ready (· = 3), accepted := some fd, welcomed := true, answers := [], beyond := [] }

/-- A round in which some clients are ready, nobody else is gone and zeros follow the
buffer. -/
def reporting (fds : List Nat) (reads : List (ReadResult UInt8)) : Input :=
  { select := .ready (· ∈ fds), accepted := none, welcomed := true,
    answers := reads.map (⟨·, none⟩), beyond := [] }

/-- The server, listening on 3, behind the connections of the clients 4, 5 and 6. -/
def crowd : Server :=
  (round (round (round ⟨3, .empty⟩ (joining 4)).server (joining 5)).server (joining 6)).server

theorem crowd_reachable : Reachable 3 crowd := by
  refine .round (.round (.round .start ?_ rfl) ?_ rfl) ?_ rfl <;> rintro _ ⟨⟩ <;> decide

end NetworkServices.Chat
