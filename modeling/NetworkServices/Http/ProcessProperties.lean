import NetworkServices.Http.Process

/-! The clients of the HTTP server are isolated from each other exactly as long as no call
of any handler fails, since a handler knows no other end for an error than that of the
process. -/

set_option autoImplicit false

namespace NetworkServices.Http

open Threaded

section Act

variable {surroundings : Surroundings} {request : Request} {thread next : Thread}
  {action : Action} {text : CString}

/-- For a picture request there is memory for `p`, and the directory can be opened. -/
def Answerable (surroundings : Surroundings) (request : Request) : Prop :=
  protocol surroundings request = ascii "HTTP/1.1" →
    surroundings.malloc (pathSize (url surroundings request)) ≠ none ∧ surroundings.directory ≠ none

theorem answer_reply_iff :
    (∃ text, (answer surroundings request).2 = .reply text) ↔ Answerable surroundings request := by
  unfold answer Answerable
  split
  case isFalse other => exact iff_of_true ⟨_, rfl⟩ fun same => absurd same other
  case isTrue asked =>
    rw [forall_prop_of_true asked]
    cases surroundings.malloc (pathSize (url surroundings request)) with
    | none =>
        refine iff_of_false (fun replied => ?_) fun answerable => answerable.1 rfl
        obtain ⟨_, same⟩ := replied
        cases same
    | some block =>
        cases surroundings.directory with
        | none =>
            refine iff_of_false (fun replied => ?_) fun answerable => answerable.2 rfl
            obtain ⟨_, same⟩ := replied
            cases same
        | some names =>
            refine iff_of_true ⟨_, rfl⟩ ⟨fun missing => ?_, fun missing => ?_⟩
            · cases missing
            · cases missing

theorem act_cases (acted : act thread action = some (.inl next)) :
    (∃ request, thread = .receiving ∧ action = .recv (.request request) ∧
      next = .answering request) ∨
    (∃ request surroundings text, thread = .answering request ∧
      action = .answer surroundings false ∧ (answer surroundings request).2 = .reply text ∧
        next = .replying (storesBefore surroundings request) text) ∨
    (∃ stored text, thread = .replying stored text ∧ action = .write true ∧
      next = .returned stored text) := by
  revert acted
  fun_cases act thread action with
  | case1 request =>
      intro acted
      cases acted
      exact .inl ⟨request, rfl, rfl, rfl⟩
  | case7 request surroundings text replied =>
      intro acted
      cases acted
      exact .inr (.inl ⟨request, surroundings, text, rfl, rfl, replied, rfl⟩)
  | case8 stored text =>
      intro acted
      cases acted
      exact .inr (.inr ⟨stored, text, rfl, rfl, rfl⟩)
  | case2 | case3 | case4 | case5 | case6 | case9 | case10 | case11 | case12 =>
      intro acted
      cases acted

/-- The calls that do not end the process: `recv` delivers a request, nothing is missing
for the answer, `write` succeeds, and no store ever comes to a fault. -/
def Action.Gentle (thread : Thread) : Action → Prop
  | .recv result => ∃ request, result = .request request
  | .answer surroundings faults =>
      faults = false ∧ ∀ request, thread = .answering request → Answerable surroundings request
  | .write written => written = true
  | .fault => False

theorem gentle_of_act (acted : act thread action = some (.inl next)) : action.Gentle thread := by
  rcases act_cases acted with received | answered | written
  · obtain ⟨request, _, same, _⟩ := received
    rw [same]
    exact ⟨request, rfl⟩
  · obtain ⟨request, surroundings, text, composing, same, replied, _⟩ := answered
    rw [same, composing]
    refine ⟨rfl, fun other sameRequest => ?_⟩
    cases sameRequest
    exact answer_reply_iff.1 ⟨text, replied⟩
  · obtain ⟨stored, text, _, same, _⟩ := written
    rw [same]
    exact rfl

theorem act_of_gentle {cause : Cause} (gentle : action.Gentle thread) :
    act thread action ≠ some (.inr cause) := by
  revert gentle
  fun_cases act thread action with
  | case2 result other =>
      intro gentle
      obtain ⟨request, same⟩ := gentle
      exact absurd same (other request)
  | case4 =>
      intro gentle
      cases gentle.1
  | case5 request surroundings ended | case6 request surroundings ended =>
      intro gentle
      obtain ⟨text, replied⟩ := answer_reply_iff.2 (gentle.2 request rfl)
      rw [ended] at replied
      cases replied
  | case9 | case11 =>
      intro gentle
      cases gentle
  | case1 | case3 | case7 | case8 | case10 | case12 =>
      intro _ same
      cases same

end Act

section History

variable {actions : List Action} {thread : Thread}

def History (actions : List Action) : Thread → Prop
  | .receiving => actions = []
  | .answering request => actions = [.recv (.request request)]
  | .replying _ text => ∃ request surroundings,
      actions = [.recv (.request request), .answer surroundings false] ∧
        (answer surroundings request).2 = .reply text
  | .returned _ text => ∃ request surroundings,
      actions = [.recv (.request request), .answer surroundings false, .write true] ∧
        (answer surroundings request).2 = .reply text

theorem history_of_alone (alone : server.Alone actions thread) : History actions thread := by
  induction alone with
  | start => rfl
  | tail before acted history =>
      rcases act_cases acted with received | answered | written
      · obtain ⟨request, waiting, reads, next⟩ := received
        rw [waiting] at history
        rw [history, reads, next]
        rfl
      · obtain ⟨request, surroundings, text, composing, answers, replied, next⟩ := answered
        rw [composing] at history
        rw [history, answers, next]
        exact ⟨request, surroundings, rfl, replied⟩
      · obtain ⟨stored, text, sending, writes, next⟩ := written
        rw [sending] at history
        obtain ⟨request, surroundings, earlier, replied⟩ := history
        rw [earlier, writes, next]
        exact ⟨request, surroundings, rfl, replied⟩

theorem sent_of_replied {surroundings : Surroundings} {request : Request} {text : CString}
    (replied : (answer surroundings request).2 = .reply text) :
    (connection_handler surroundings (.request request) true).sent = some text := by
  unfold connection_handler
  dsimp only
  rw [replied]
  rfl

end History

section Isolation

variable {events : List (Event Accepted Action)} {process next : Process Thread Cause}
  {event : Event Accepted Action}

/-- `accept` delivers a connection, and no call of a handler ends the process. -/
def Gentle (process : Process Thread Cause) : Event Accepted Action → Prop
  | .main accepted => 0 < accepted.new_socket ∧ accepted.allocated = true
  | .thread index action =>
      ∀ thread, process.threads[index]? = some thread → action.Gentle thread

/-- The process runs, and the accept loop and every handler in it can go on. Each handler
is where its own calls alone have brought it, so a reply is the one to its own request. -/
structure Isolated (events : List (Event Accepted Action)) (process : Process Thread Cause) :
    Prop where
  running : process.ended = none
  accepts : ∀ new_socket, 0 < new_socket → ∃ next,
    server.Step process (.main ⟨new_socket, true, true⟩) next ∧
      next.threads = process.threads ++ [.receiving]
  continues : ∀ index thread action after, process.threads[index]? = some thread →
    act thread action = some (.inl after) → ∃ next,
      server.Step process (.thread index action) next ∧ next.threads[index]? = some after
  alone : ∀ index thread, process.threads[index]? = some thread →
    server.Alone (own index events) thread
  replies : ∀ index stored text, process.threads[index]? = some (.returned stored text) →
    ∃ request surroundings,
      own index events = [.recv (.request request), .answer surroundings false, .write true] ∧
        (connection_handler surroundings (.request request) true).sent = some text

theorem acceptLoop_eq_inl_iff {accepted : Accepted} {spawns : Bool} :
    acceptLoop accepted = .inl spawns ↔
      (0 < accepted.new_socket ∧ accepted.allocated = true) ∧ accepted.created = spawns := by
  unfold acceptLoop
  split
  case isTrue zero =>
    refine iff_of_false (fun same => ?_) fun positive => ?_
    · cases same
    · omega
  case isFalse nonzero =>
    split
    case isTrue failed =>
      refine iff_of_false (fun same => ?_) fun positive => ?_
      · cases same
      · omega
    case isFalse connected =>
      have positive : 0 < accepted.new_socket := by omega
      rw [and_iff_right positive]
      split
      case isTrue allocated => rw [and_iff_right allocated, Sum.inl.injEq]
      case isFalse exhausted =>
        refine iff_of_false (fun same => ?_) fun both => exhausted both.1
        cases same

theorem gentle_of_running (step : server.Step process event next) (running : next.ended = none) :
    Gentle process event := by
  cases step with
  | spawn called => exact (acceptLoop_eq_inl_iff.1 called).1
  | idle called => exact (acceptLoop_eq_inl_iff.1 called).1
  | stop called => cases running
  | act present acted =>
      intro thread same
      rw [present] at same
      cases same
      exact gentle_of_act acted
  | exit present acted => cases running

theorem running_of_gentle (step : server.Step process event next)
    (gentle : Gentle process event) : next.ended = none := by
  cases step with
  | spawn | idle | act => rfl
  | stop called =>
      have goesOn := acceptLoop_eq_inl_iff.2 ⟨gentle, rfl⟩
      cases called.symm.trans goesOn
  | exit present acted => exact absurd acted (act_of_gentle (gentle _ present))

theorem isolated_of_running {allowed : Process Thread Cause → Event Accepted Action → Prop}
    (run : server.Run allowed events process) (running : process.ended = none) :
    Isolated events process := by
  obtain ⟨threads, ended⟩ := process
  cases running
  refine ⟨rfl, fun new_socket positive => ?_, fun index thread action after present acted => ?_,
    fun index thread => alone_of_running run rfl, fun index stored text present => ?_⟩
  · exact ⟨_, .spawn (acceptLoop_eq_inl_iff.2 ⟨⟨positive, rfl⟩, rfl⟩), rfl⟩
  · have inside := (List.getElem?_eq_some_iff.1 present).1
    exact ⟨_, .act present acted, List.getElem?_set_self inside⟩
  · obtain ⟨request, surroundings, actions, replied⟩ :=
      history_of_alone (alone_of_running run rfl present)
    exact ⟨request, surroundings, actions, sent_of_replied replied⟩

/-- In every run, whichever way its calls end and however they interleave, the clients are
isolated from each other exactly if no step was one that ends the process. -/
theorem clients_isolated_iff {events : List (Event Accepted Action)}
    {process : Process Thread Cause} (run : server.Run (fun _ _ => True) events process) :
    Isolated events process ↔ server.Run Gentle events process := by
  constructor
  · intro isolated
    exact run_of_running (fun _ _ _ => gentle_of_running) run isolated.running
  · intro gentle
    exact isolated_of_running gentle (running_of_run (fun _ _ _ => running_of_gentle) gentle)

theorem two_clients_isolated :
    let request : Request := ⟨ascii "GET / HTTP/1.1\n", by decide, by decide⟩
    let surroundings : Surroundings :=
      { method := ⟨.zeroed 256, []⟩, url := ⟨.zeroed 256, []⟩, protocol := ⟨.zeroed 256, []⟩
        buff_send := ⟨.zeroed 512, []⟩, malloc := fun size => some (List.replicate size 0)
        directory := some [] }
    Isolated
      [.main ⟨4, true, true⟩, .main ⟨5, true, true⟩, .thread 1 (.recv (.request request)),
        .thread 0 (.recv (.request request)), .thread 0 (.answer surroundings false),
        .thread 1 (.answer surroundings false), .thread 0 (.write true), .thread 1 (.write true)]
      ⟨[.returned (storesBefore surroundings request) (page [] []),
        .returned (storesBefore surroundings request) (page [] [])], none⟩ := by
  intro request surroundings
  have answered : (answer surroundings request).2 = .reply (page [] []) := rfl
  have answerable : Answerable surroundings request := answer_reply_iff.1 ⟨_, answered⟩
  have composes : act (.answering request) (.answer surroundings false) =
      some (.inl (.replying (storesBefore surroundings request) (page [] []))) := rfl
  have accepted : ∀ process new_socket, 0 < new_socket →
      Gentle process (.main ⟨new_socket, true, true⟩) := fun _ _ positive => ⟨positive, rfl⟩
  have received : ∀ process index, Gentle process (.thread index (.recv (.request request))) :=
    fun _ _ _ _ => ⟨request, rfl⟩
  have composed : ∀ process index, process.threads[index]? = some (.answering request) →
      Gentle process (.thread index (.answer surroundings false)) := by
    intro process index present thread same
    cases present.symm.trans same
    refine ⟨rfl, fun other same => ?_⟩
    cases same
    exact answerable
  have written : ∀ process index, Gentle process (.thread index (.write true)) :=
    fun _ _ _ _ => rfl
  have idle : server.Run Gentle [] ⟨[], none⟩ := .start
  have connected := (idle.tail (.main ⟨4, true, true⟩) (accepted _ 4 (by decide)) (.spawn rfl)).tail
    (.main ⟨5, true, true⟩) (accepted _ 5 (by decide)) (.spawn rfl)
  have requested := (connected.tail (.thread 1 (.recv (.request request))) (received _ 1)
    (.act rfl rfl)).tail (.thread 0 (.recv (.request request))) (received _ 0) (.act rfl rfl)
  have composing := (requested.tail (.thread 0 (.answer surroundings false)) (composed _ 0 rfl)
    (.act rfl composes)).tail (.thread 1 (.answer surroundings false)) (composed _ 1 rfl)
    (.act rfl composes)
  have run := (composing.tail (.thread 0 (.write true)) (written _ 0) (.act rfl rfl)).tail
    (.thread 1 (.write true)) (written _ 1) (.act rfl rfl)
  exact (clients_isolated_iff (run.mono fun _ _ _ => trivial)).2 run

/-- Of two clients one is in the middle of its request when the other one closes its
connection without a request. -/
theorem closing_client_ends_others :
    let request : Request := ⟨ascii "GET / HTTP/1.1\n", by decide, by decide⟩
    let events : List (Event Accepted Action) :=
      [.main ⟨4, true, true⟩, .main ⟨5, true, true⟩, .thread 1 (.recv (.request request)),
        .thread 0 (.recv .closed)]
    let process : Process Thread Cause := ⟨[.receiving, .answering request], some .exitFailure⟩
    server.Run (fun _ _ => True) events process ∧ ¬ Isolated events process := by
  intro request events process
  have idle : server.Run (fun _ _ => True) [] ⟨[], none⟩ := .start
  have connected := (idle.tail (.main ⟨4, true, true⟩) trivial (.spawn rfl)).tail (.main ⟨5, true, true⟩)
    trivial (.spawn rfl)
  have requested := connected.tail (.thread 1 (.recv (.request request))) trivial (.act rfl rfl)
  have closed : server.Run (fun _ _ => True) events process :=
    requested.tail (.thread 0 (.recv .closed)) trivial (.exit rfl rfl)
  refine ⟨closed, fun isolated => ?_⟩
  cases isolated.running

end Isolation

end NetworkServices.Http
