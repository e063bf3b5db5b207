import NetworkServices.Chat.ServerProperties
import NetworkServices.Foundation.Lifetime

/-! The client list over whole runs. The history of a run says which descriptors
`accept` returned and which were closed; the vector has to agree with it at the start
of every round, whatever the rounds before did to the slots. -/

set_option autoImplicit false

namespace NetworkServices.Chat

/-- Descriptors are acquired by `accept` and released by `close`. -/
abbrev Event := Lifetime Nat

def Visit.event (visit : Visit) : Option Event :=
  visit.closed.map .released

def Result.events (result : Result) : List Event :=
  match result.accept with
  | some (some new_socket) => .acquired new_socket :: result.visits.filterMap Visit.event
  | _ => result.visits.filterMap Visit.event

/-- A new descriptor is neither the listening socket nor that of a connection that is
still open. -/
def Unopened (listening : Nat) (history : List Event) (input : Input) : Prop :=
  ∀ fd ∈ input.accepted, fd ≠ listening ∧ fd ∉ held history

/-- The runs up to the start of a round, with what they accepted and closed. -/
inductive Run (listening : Nat) : List Event → Server → Prop where
  | start : Run listening [] ⟨listening, .empty⟩
  | round {history : List Event} {server : Server} {input : Input} :
      Run listening history server → Unopened listening history input →
      (round server input).control = .running →
      Run listening (history ++ (round server input).events) (round server input).server

/-!
## The loop over the clients
-/

section Loop

variable {beyond : List UInt8} {history : List Event} {visits : List Visit} {control : Control}

theorem Step.agrees {slot count : Nat} {state next : State} {visit : Visit}
    (step : Step beyond state slot visit control next) (invariant : Invariant count state)
    (elements : state.clients.elements = held history) (closes : ReleasesHeld history) :
    next.clients.elements = held (history ++ visit.event.toList) ∧
      ReleasesHeld (history ++ visit.event.toList) := by
  cases step with
  | skipped | pending | wrote | failed =>
      rw [Visit.event, Option.map_none, Option.toList_none, List.append_nil]
      exact ⟨elements, closes⟩
  | left watched remaining member erased =>
      rw [Visit.event, Option.map_some, Option.toList_some]
      refine ⟨?_, closes.release (elements ▸ member)⟩
      rw [erased.elements, invariant.nodup.erase_eq_filter, held_append_released, elements]

theorem filterMap_event_cons (visit : Visit) (visits : List Visit) :
    (visit :: visits).filterMap Visit.event =
      visit.event.toList ++ visits.filterMap Visit.event := by
  rw [List.filterMap_cons]
  cases visit.event <;> rfl

theorem Steps.agrees {whole count slot : Nat} {state final : State}
    (steps : Steps beyond count slot state visits control final)
    (invariant : Invariant whole state) (elements : state.clients.elements = held history)
    (closes : ReleasesHeld history) :
    final.clients.elements = held (history ++ visits.filterMap Visit.event) ∧
      ReleasesHeld (history ++ visits.filterMap Visit.event) := by
  induction steps generalizing history with
  | done =>
      rw [List.filterMap_nil, List.append_nil]
      exact ⟨elements, closes⟩
  | @next _ _ _ _ _ visit _ _ step _ ih =>
      obtain ⟨nextElements, nextCloses⟩ := step.agrees invariant elements closes
      rw [filterMap_event_cons, ← List.append_assoc]
      exact ih (invariant.step step) nextElements nextCloses
  | stopped step =>
      rw [filterMap_event_cons, List.filterMap_nil, List.append_nil]
      exact step.agrees invariant elements closes

theorem Steps.control_ne_undefined {count slot : Nat} {state final : State}
    (steps : Steps beyond count slot state visits control final) : control ≠ .undefined := by
  induction steps with
  | done => decide
  | next _ _ ih => exact ih
  | stopped step => rcases step.control with rfl | rfl | rfl <;> decide

end Loop

/-!
## Rounds
-/

/-- The start of a round: what the vector holds is what is held in the history. -/
structure Agrees (listening : Nat) (history : List Event) (server : Server) : Prop where
  listens : server.listenSocketDescriptor = listening
  elements : server.clients.elements = held history
  valid : server.Valid
  closes : ReleasesHeld history

/-- What one round leaves behind, also where it does not come to its end. -/
structure RoundAgrees (listening : Nat) (history : List Event) (result : Result) : Prop where
  control : result.control ≠ .undefined
  closes : ReleasesHeld (history ++ result.events)
  listens : result.server.listenSocketDescriptor = listening
  elements : result.control ≠ .exited →
    result.server.clients.elements = held (history ++ result.events)

section Round

variable {listening : Nat} {history : List Event} {server : Server} {input : Input}

theorem Agrees.fresh (agrees : Agrees listening history server)
    (unopened : Unopened listening history input) : Fresh server input := by
  intro fd accepted
  rw [agrees.listens, agrees.elements]
  exact unopened fd accepted

theorem Agrees.check (agrees : Agrees listening history server)
    (unopened : Unopened listening history input) (watchedSockets : FdSet) :
    RoundAgrees listening history (check server watchedSockets input) := by
  have connects := checkForNewConnection_connects server watchedSockets input
  rw [Chat.check]
  generalize checkForNewConnection server watchedSockets input = connection at connects
  have valid := connects.valid agrees.valid (agrees.fresh unopened)
  have exits : Control.exited ≠ .undefined := by decide
  have joins (fd : Nat) : ReleasesHeld (history ++ [.acquired fd]) :=
    agrees.closes.acquire fd
  cases connects with
  | failed =>
      refine ⟨exits, ?_, agrees.listens, fun running => absurd rfl running⟩
      rw [Result.events, List.filterMap_nil, List.append_nil]
      exact agrees.closes
  | unwelcomed =>
      exact ⟨exits, joins _, agrees.listens, fun running => absurd rfl running⟩
  | unreported =>
      have invariant := invariant_start agrees.valid.nodup watchedSockets input.answers
      have steps := invariant.clientLoop (Nat.zero_add _) input.beyond
      obtain ⟨elements, closes⟩ := steps.agrees invariant agrees.elements agrees.closes
      exact ⟨steps.control_ne_undefined, closes, agrees.listens, fun _ => elements⟩
  | @joined new_socket =>
      have invariant := invariant_start (valid _ rfl).nodup watchedSockets input.answers
      have steps := invariant.clientLoop (Nat.zero_add _) input.beyond
      have listed : (server.clients.pushBack new_socket).elements =
          held (history ++ [.acquired new_socket]) := by
        rw [SlotVector.elements_pushBack, held_append_acquired, agrees.elements]
      obtain ⟨elements, closes⟩ := steps.agrees invariant listed (joins new_socket)
      rw [List.append_assoc] at elements closes
      exact ⟨steps.control_ne_undefined, closes, agrees.listens, fun _ => elements⟩

theorem Agrees.round (agrees : Agrees listening history server)
    (unopened : Unopened listening history input) :
    RoundAgrees listening history (round server input) := by
  rw [Chat.round]
  split
  · exact agrees.check unopened _
  · exact agrees.check unopened _
  · have exits : Control.exited ≠ .undefined := by decide
    refine ⟨exits, ?_, agrees.listens, fun running => absurd rfl running⟩
    rw [Result.events, List.filterMap_nil, List.append_nil]
    exact agrees.closes

end Round

theorem Run.agrees {listening : Nat} {history : List Event} {server : Server}
    (run : Run listening history server) : Agrees listening history server := by
  induction run with
  | start =>
      refine ⟨rfl, rfl, ⟨List.nodup_nil, List.not_mem_nil⟩, releasesHeld_nil⟩
  | round _ unopened running ih =>
      have result := ih.round unopened
      exact ⟨result.listens, result.elements (by rw [running]; decide),
        round_valid ih.valid (ih.fresh unopened), result.closes⟩

/-- At the start of every round the clients are the descriptors that were accepted and
not closed, each once and in order of acceptance. The round that follows closes only
such descriptors, and `find` always finds the one that is erased. -/
theorem clients_eq_held {listening : Nat} {history : List Event} {server : Server}
    (run : Run listening history server) :
    server.clients.elements = held history ∧ server.clients.elements.Nodup ∧
      listening ∉ server.clients.elements ∧
      ∀ input, Unopened listening history input →
        (round server input).control ≠ .undefined ∧
          ReleasesHeld (history ++ (round server input).events) := by
  have agrees := run.agrees
  refine ⟨agrees.elements, agrees.valid.nodup, ?_, fun input unopened => ?_⟩
  · rw [← agrees.listens]
    exact agrees.valid.notListening
  · have result := agrees.round unopened
    exact ⟨result.control, result.closes⟩

theorem crowd_leaving : Run 3
    [.acquired 4, .acquired 5, .acquired 6, .released 4, .released 6]
    (round crowd (reporting [4, 6] [.finished, .finished])).server := by
  have joins (history : List Event) (fd : Nat) (new : fd ≠ 3 ∧ fd ∉ held history) :
      Unopened 3 history (joining fd) := by
    intro other accepted
    cases accepted
    exact new
  have first := @Run.round 3 [] ⟨3, .empty⟩ (joining 4) .start (joins [] 4 (by decide)) rfl
  have second := Run.round first (joins [.acquired 4] 5 (by decide)) rfl
  have third := Run.round second (joins [.acquired 4, .acquired 5] 6 (by decide)) rfl
  have silent : Unopened 3 [.acquired 4, .acquired 5, .acquired 6]
      (reporting [4, 6] [.finished, .finished]) := by
    intro fd accepted
    cases accepted
  exact Run.round third silent rfl

theorem clients_eq_held_crowd :
    (round crowd (reporting [4, 6] [.finished, .finished])).server.clients.elements = [5] :=
  (clients_eq_held crowd_leaving).1

end NetworkServices.Chat
