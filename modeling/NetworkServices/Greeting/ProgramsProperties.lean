import NetworkServices.Greeting.ClientAgreement
import NetworkServices.Greeting.ServerAgreement

/-! What the clients of a greeting server show, in every order of the calls of all processes. -/

set_option autoImplicit false

namespace NetworkServices.Greeting

variable {κ : Type} [DecidableEq κ]

section Service

variable {server : ServerProgram} {argv : List CString} {passes : Nat}
  {inherited : List (Option Nat)} {clients : κ → Invocation}

theorem sound_start : (World.start (κ := κ) inherited).Sound server where
  host := Host.sound_of_events rfl
  distinct := List.nodup_nil
  connected _ member := absurd member List.not_mem_nil
  shows _ := .inl rfl

theorem keeps_start (party : Party κ) :
    Keeps shared (contract server clients) party (fun _ _ => True) (World.start inherited)
      ((start server argv passes inherited clients).programs party) := by
  cases party with
  | server =>
      cases server with
      | server4 => exact keeps_server4 rfl argv passes
      | server6 => exact keeps_server6 rfl argv passes
  | client name =>
      cases invoked : clients name with
      | mk program argv =>
          simp only [start, invoked]
          cases program with
          | client4 => exact keeps_client4 rfl argv
          | client => exact keeps_client rfl argv
          | client6 => exact keeps_client6 rfl argv invoked

/-- What can be seen of one client. -/
structure Greets (server : ServerProgram) (world : World κ) (name : κ) : Prop where
  shown : (world.client name).shown = [] ∨ ∃ text, (world.client name).shown = [text] ∧
    text <+: msg ∧ (text = [] → Gone server world.host name) ∧
      (text ≠ [] → name ∈ world.host.accepted ∧ ¬ Lost server world.host name)
  served : name ∈ world.host.accepted.dropLast →
    world.host.sent name = msg ∨ Gone server world.host name ∨ Lost server world.host name
  lost : Lost server world.host name → world.host.sent name = []

theorem World.Sound.greets {world : World κ} (sound : world.Sound server) (name : κ) :
    Greets server world name where
  shown := by
    refine (sound.shows name).imp_right ?_
    rintro ⟨text, shown, front, empty⟩
    refine ⟨text, shown, ?_, empty, fun nonempty => ?_⟩
    · rcases sound.host.sent name with unsent | ⟨greeted, _⟩
      · rw [unsent] at front
        exact front.trans List.nil_prefix
      · rwa [greeted] at front
    · have sent : world.host.sent name ≠ [] := by
        intro nothing
        rw [nothing] at front
        exact nonempty (List.prefix_nil.mp front)
      exact ⟨((sound.host.sent name).resolve_left sent).2, fun lost =>
        sent (sound.host.lost name lost)⟩
  served := sound.host.served name
  lost := sound.host.lost name

/-- In every order of the calls of a server and of any number of clients, a client shows one
message at most. It is the front of the greeting that it has read, and nothing only when the
server has ended or `server4.c` could not send. Every client the server is done with has been sent
the greeting, but `server6.cpp` sends none to its first one, whatever descriptors it has inherited.
No client stores outside of its arrays, unless the words of `client6.c` are too long, and no server
into memory that is in use, unless the pointer of `server6.cpp` leads there. -/
theorem greetings_shown {system : System (Party κ) Call Answer (World κ)}
    (run : Relation.ReflTransGen (System.Step shared) (start server argv passes inherited clients)
      system) :
    (∀ name, Greets server system.state name) ∧
      (∀ name next, system.programs (.client name) = .call .overrun next →
        ¬ (clients name).Fits) ∧
      ∀ next, system.programs .server = .call .overrun next → server = .server6 := by
  refine ⟨?_, ?_, fun next current => ?_⟩
  · intro name
    have sound : system.state.Sound server :=
      (System.keeps_of_run sound_start keeps_start run).1
    exact sound.greets name
  · intro name next current
    exact System.may_of_run sound_start keeps_start run current rfl
  · exact System.may_of_run sound_start keeps_start run current rfl

end Service

/-- The host on which the descriptors 0 to 2 are open, and nothing fails. -/
def obliging : Party Nat → World Nat → (request : Call) → Option (Answer request)
  | .server, world, .socket => some (some world.host.table.lowestFree)
  | .server, world, .accept sockfd =>
      if world.host.listener = some sockfd ∧ world.queue ≠ [] then
        some (some world.host.table.lowestFree, ⟨ascii "::1", 50000, false⟩)
      else none
  | .server, world, .send fd text =>
      if text = msg ∧ (world.host.table.lookup fd).isSome ∧ world.host.listener ≠ some fd then
        some 16
      else some (-1)
  | .client name, world, .connect sockfd =>
      some (sockfd ≠ none ∧ world.host.listener ≠ none ∧ world.host.running = true ∧
        (world.client name).connected = false)
  | .client name, world, .recv sockfd size =>
      if sockfd ≠ none ∧ world.host.sent name ≠ [] ∧ (world.host.sent name).length ≤ size then
        some (some (world.host.sent name))
      else none
  | .client _, _, .socket => some (some 3)
  | .client _, _, .if_nametoindex _ => some 1
  | _, _, .bind _ _ | _, _, .listen _ => some true
  | _, _, .inet_ntop => some .spare
  | _, _, .print _ _ | _, _, .perror | _, _, .showMessage _ _ | _, _, .close _ => some ()
  | _, _, _ => none

theorem obliging_honest (party : Party Nat) (world : World Nat) (request : Call) :
    ∀ answer ∈ obliging party world request, shared.promise party world request answer := by
  intro answer answered
  cases party with
  | server =>
      cases request with
      | socket =>
          cases answered
          rintro fd ⟨⟩
          rfl
      | accept sockfd =>
          simp only [obliging, Option.mem_def, Option.ite_none_right_eq_some] at answered
          obtain ⟨⟨listens, waiting⟩, same⟩ := answered
          cases same
          rintro fd ⟨⟩
          exact ⟨listens, waiting, rfl⟩
      | send fd text =>
          simp only [obliging, Option.mem_def] at answered
          split at answered
          · next possible =>
              obtain ⟨rfl, opened, other⟩ := possible
              cases answered
              exact fun _ => ⟨rfl, opened, other⟩
          · cases answered
            have negative : ¬ (0 : Int32) < -1 := by decide
            exact fun positive => absurd positive negative
      | _ => trivial
  | client name =>
      cases request with
      | connect sockfd =>
          cases answered
          exact of_decide_eq_true
      | recv sockfd size =>
          simp only [obliging, Option.mem_def, Option.ite_none_right_eq_some] at answered
          obtain ⟨⟨given, some_sent, room⟩, same⟩ := answered
          cases same
          exact ⟨given, room, List.prefix_rfl, fun nothing => absurd nothing some_sent⟩
      | _ => trivial

def invocations : Nat → Invocation
  | 0 => ⟨.client6, [ascii "client6", ascii "::1", ascii "7000", ascii "lo"]⟩
  | _ => ⟨.client4, [ascii "client4", ascii "127.0.0.1", ascii "7000"]⟩

/-- Two clients connect, the server takes them in turn, and both try to read. -/
def twoClients : System (Party Nat) Call Answer (World Nat) :=
  (start .server6 [ascii "server6", ascii "7000"] 3 [some 0, some 1, some 2] invocations).play
    shared obliging
    (List.replicate 3 .server ++ List.replicate 3 (.client 0) ++ List.replicate 2 (.client 1) ++
      List.replicate 12 .server ++ List.replicate 3 (.client 1) ++ List.replicate 3 (.client 0))

example : (twoClients.state.client 1).shown = [msg] ∧ (twoClients.state.client 0).shown = [] := by
  decide

theorem greetings_shown_two :
    Greets .server6 twoClients.state 0 ∧ Greets .server6 twoClients.state 1 := by
  have run : Relation.ReflTransGen (System.Step shared) _ twoClients :=
    System.run_play obliging_honest _ _
  exact ⟨(greetings_shown run).1 0, (greetings_shown run).1 1⟩

end NetworkServices.Greeting
