import NetworkServices.Greeting.Agreement

/-! The two servers keep to the agreement. -/

set_option autoImplicit false

namespace NetworkServices.Greeting

variable {κ : Type} [DecidableEq κ]

section Servers

variable {server : ServerProgram} {clients : κ → Invocation} {world : World κ} {Result : Type}
  {post : World κ → Result → Prop}

theorem World.Sound.withHost {host : Host κ} (sound : world.Sound server)
    (changed : host.Sound server) (accepted : host.accepted = world.host.accepted)
    (grows : world.host.Grows host) : ({ world with host } : World κ).Sound server where
  host := changed
  distinct := by
    rw [accepted]
    exact sound.distinct
  connected := by
    rw [accepted]
    exact sound.connected
  shows := by
    intro name
    rcases sound.shows name with quiet | ⟨text, shown, front, empty⟩
    · exact .inl quiet
    · refine .inr ⟨text, shown, front.trans (grows.sent name), fun nothing => ?_⟩
      exact (empty nothing).mono grows.running grows.refused

/-- The server changes its host. -/
theorem keeps_host {request : Call} {next : Answer request → Process Result}
    (allowed : request ≠ .overrun)
    (changed : ∀ later : World κ, later.host = world.host → ∀ answer,
      Host.promise later request answer → ∃ host, Host.after later request answer = { later with host } ∧
        host.Sound server ∧ host.accepted = world.host.accepted ∧ world.host.Grows host)
    (rest : ∀ later : World κ, later.host = world.host → ∀ answer,
      Host.promise later request answer →
        Keeps shared (contract server clients) .server post (Host.after later request answer)
          (next answer)) :
    Keeps shared (contract server clients) .server post world (.call request next) := by
  intro later others
  refine ⟨fun same => absurd same allowed,
    fun answer promised => ⟨?_, rest later others.rely answer promised⟩⟩
  obtain ⟨host, after, sound, accepted, grows⟩ := changed later others.rely answer promised
  have same : later.host = world.host := others.rely
  show (contract server clients).Respects .server later (Host.after later request answer)
  rw [after]
  rw [← same] at accepted grows
  refine ⟨others.invariant.withHost sound accepted grows, fun party other => ?_⟩
  cases party with
  | server => exact absurd rfl other
  | client name => exact ⟨rfl, grows⟩

theorem Host.Sound.stop {host : Host κ} (sound : host.Sound server) :
    ({ host with running := false } : Host κ).Sound server where
  sent := sound.sent
  lost := sound.lost
  waiting _ _ _ := .inl (.inl rfl)
  served client member := (sound.served client member).imp_right
    (Or.imp_left fun _ => .inl rfl)

theorem keeps_exit_server {status : ExitStatus} :
    Keeps shared (contract server clients) .server post world (.exit status) := by
  intro later others
  have grows : later.host.Grows { later.host with running := false } :=
    ⟨fun _ => List.prefix_rfl, fun _ => rfl, List.Subset.refl _⟩
  refine ⟨others.invariant.withHost others.invariant.host.stop rfl grows, fun party other => ?_⟩
  cases party with
  | server => exact absurd rfl other
  | client name => exact ⟨rfl, grows⟩

theorem keeps_print_server {stream : Stream} {text : CString} {next : Unit → Process Result}
    (rest : ∀ later : World κ, later.host = world.host →
      Keeps shared (contract server clients) .server post later (next ())) :
    Keeps shared (contract server clients) .server post world
      (.invoke (Call.print stream text) >>= next) :=
  keeps_quiet (fun _ _ => rfl) (fun _ => nofun) fun later others _ _ => rest later others.rely

theorem keeps_failWithPerror_server {text : String} :
    Keeps shared (contract server clients) .server post world (failWithPerror text) :=
  keeps_print_server fun _ _ =>
    keeps_quiet (fun _ _ => rfl) (fun _ => nofun) fun _ _ _ _ => keeps_exit_server

theorem keeps_failWithErrno_server {text : String} :
    Keeps shared (contract server clients) .server post world (failWithErrno text) :=
  keeps_print_server fun _ _ =>
    keeps_quiet (fun _ _ => rfl) (fun _ => nofun) fun _ _ _ _ =>
      keeps_print_server fun _ _ => keeps_exit_server

theorem keeps_accept {sockfd : Nat} {next : Option Nat × Peer → Process Result}
    (idle : world.host.Idle server)
    (failed : ∀ (later : World κ) peer,
      Keeps shared (contract server clients) .server post later (next (none, peer)))
    (accepted : ∀ (later : World κ) client peer, client ∉ world.host.accepted →
      later.host = world.host.accept client →
        Keeps shared (contract server clients) .server post later
          (next (some world.host.table.lowestFree, peer))) :
    Keeps shared (contract server clients) .server post world
      (.invoke (Call.accept sockfd) >>= next) := by
  intro later others
  have same : later.host = world.host := others.rely
  refine ⟨(fun same => by cases same), fun answered promised => ?_⟩
  obtain ⟨answer, peer⟩ := answered
  cases answer with
  | none => exact ⟨Contract.respects_self others.invariant, failed later peer⟩
  | some fd =>
      obtain ⟨_, waiting, lowest⟩ := promised fd rfl
      cases queued : later.queue with
      | nil => exact absurd queued waiting
      | cons client queue =>
          have after : shared.after .server later (Call.accept sockfd) (some fd, peer) =
              { later with queue, host := later.host.accept client } := by
            show Host.after later (Call.accept sockfd) (some fd, peer) = _
            simp only [Host.after, queued]
          have sound := others.invariant
          have distinct := sound.distinct
          have connected := sound.connected
          rw [queued] at distinct connected
          have fresh : client ∉ later.host.accepted := fun member =>
            (List.nodup_append.mp distinct).2.2 client member client List.mem_cons_self rfl
          have order : (later.host.accept client).accepted ++ queue =
              later.host.accepted ++ client :: queue := by
            rw [Host.accepted_accept, List.append_assoc]
            rfl
          rw [same] at fresh
          rw [after]
          refine ⟨⟨⟨?_, ?_, ?_, ?_⟩, ?_⟩, ?_⟩
          · show (later.host.accept client).Sound server
            rw [same]
            exact idle.sound_accept fresh
          · show ((later.host.accept client).accepted ++ queue).Nodup
            rw [order]
            exact distinct
          · show ∀ name ∈ (later.host.accept client).accepted ++ queue, _
            rw [order]
            exact connected
          · intro name
            have grows := later.host.grows_accept client
            rcases sound.shows name with quiet | ⟨text, shown, front, empty⟩
            · exact .inl quiet
            · exact .inr ⟨text, shown, front.trans (grows.sent name), empty⟩
          · intro party other
            cases party with
            | server => exact absurd rfl other
            | client name => exact ⟨rfl, later.host.grows_accept client⟩
          · rw [lowest, same]
            exact accepted _ client peer fresh rfl

theorem keeps_send {fd : Nat} {next : Int32 → Process Result}
    (written : (world.host.write fd msg).Sound server) (refused : (world.host.refuse fd).Sound server)
    (rest : ∀ (later : World κ) result,
      later.host = (if 0 < result then world.host.write fd msg else world.host.refuse fd) →
        Keeps shared (contract server clients) .server post later (next result)) :
    Keeps shared (contract server clients) .server post world
      (.invoke (Call.send fd msg) >>= next) := by
  refine keeps_host nofun (fun later same result _ => ?_) fun later same result _ => ?_
  · refine ⟨_, rfl, ?_⟩
    rw [same]
    by_cases positive : 0 < result
    · simp only [if_pos positive]
      exact ⟨written, world.host.accepted_write fd msg, world.host.grows_write fd msg⟩
    · simp only [if_neg positive]
      exact ⟨refused, world.host.accepted_refuse fd, world.host.grows_refuse fd⟩
  · refine rest _ result ?_
    rw [← same]
    rfl

theorem keeps_close {fd : Nat} {next : Unit → Process Result}
    (closed : (world.host.close fd).Sound server)
    (rest : ∀ later : World κ, later.host = world.host.close fd →
      Keeps shared (contract server clients) .server post later (next ())) :
    Keeps shared (contract server clients) .server post world
      (.invoke (Call.close (some fd)) >>= next) := by
  refine keeps_host nofun (fun later same _ _ => ?_) fun later same _ _ => ?_
  · refine ⟨_, rfl, ?_⟩
    rw [same]
    exact ⟨closed, world.host.accepted_close fd, world.host.grows_close fd⟩
  · refine rest _ ?_
    rw [← same]
    rfl

/-- The pointer leads on, to the end, or to where nothing is known. -/
theorem keeps_inet_ntop {post : World κ → Unit ⊕ Unit → Prop} {client : Nat} {peer : Peer}
    (rest : ∀ later : World κ, later.host = world.host →
      Keeps shared (contract .server6 clients) .server post later (Server6.greet client peer)) :
    Keeps shared (contract .server6 clients) .server post world
      (.invoke Call.inet_ntop >>= fun
        | .spare => Server6.greet client peer
        | .fault => .exit .failure
        | .used => .invoke Call.overrun >>= fun overrun => nomatch overrun) := by
  refine keeps_quiet (fun _ _ => rfl) (fun _ => nofun) fun later others pointer _ => ?_
  cases pointer with
  | spare => exact rest later others.rely
  | fault => exact keeps_exit_server
  | used => exact fun last further => ⟨fun _ => rfl, fun overrun => overrun.elim⟩

/-- The invariant of both loops. -/
def comesToAccept (server : ServerProgram) (world : World κ) : Unit ⊕ Unit → Prop :=
  Sum.elim (fun _ => world.host.Idle server) fun _ => True

theorem keeps_pass4 (idle : world.host.Idle .server4) (socket_server : Nat) :
    Keeps shared (contract .server4 clients) .server (comesToAccept .server4) world
      (Server4.pass socket_server) := by
  refine keeps_accept idle (fun later peer => keeps_failWithPerror_server) ?_
  intro later client peer fresh accepted
  refine keeps_print_server fun later same => keeps_send ?_ ?_ fun later result answered => ?_
  · rw [same, accepted]
    exact idle.sound_greet fresh
  · rw [same, accepted]
    exact (idle.sound_accept fresh).refuse
  · rw [same, accepted] at answered
    have done : (later.host.close world.host.table.lowestFree).Idle .server4 := by
      rw [answered]
      split
      · exact idle.greet fresh
      · exact idle.pass_over fresh
    refine keeps_close done.toSound fun last closed => ?_
    show last.host.Idle .server4
    rw [closed]
    exact done

theorem keeps_pass6 (idle : world.host.Idle .server6) (socketDescriptor : Nat) :
    Keeps shared (contract .server6 clients) .server (comesToAccept .server6) world
      (Server6.pass socketDescriptor) := by
  refine keeps_accept idle (fun later peer => keeps_failWithErrno_server) ?_
  intro later client peer fresh accepted
  refine keeps_inet_ntop fun later known => ?_
  refine keeps_print_server fun later same => keeps_print_server fun later unchanged => ?_
  have current : later.host = world.host.accept client :=
    unchanged.trans (same.trans (known.trans accepted))
  refine keeps_send ?_ ?_ fun later result answered => ?_
  · rw [current]
    exact idle.sound_greet0 fresh
  · rw [current]
    exact (idle.sound_accept fresh).refuse
  · rw [current] at answered
    by_cases failed : result ≤ 0
    · rw [if_pos failed]
      exact keeps_failWithErrno_server
    · rw [if_neg failed]
      rw [if_pos (Int32.not_le.mp failed)] at answered
      have done : (later.host.close 0).Idle .server6 := by
        rw [answered]
        exact idle.greet0 fresh
      refine keeps_close done.toSound fun last closed => ?_
      show last.host.Idle .server6
      rw [closed]
      exact done

/-- The host in front of the loop: descriptor 0 has been inherited, or it is the socket. -/
structure Host.Ready (host : Host κ) : Prop where
  events : host.events = []
  zero : ∃ name, host.table.lookup 0 = some (.other name)

theorem Host.sound_of_events {host : Host κ} (events : host.events = []) : host.Sound server where
  sent client := .inl (by rw [Host.sent, events]; rfl)
  lost client _ := by rw [Host.sent, events]; rfl
  waiting client member := by
    rw [Host.accepted, events] at member
    exact absurd member List.not_mem_nil
  served client member := by
    rw [Host.accepted, events] at member
    exact absurd member List.not_mem_nil

theorem Host.Ready.idle {host : Host κ} (ready : host.Ready) : host.Idle server where
  toSound := Host.sound_of_events ready.events
  done client member := by
    rw [Host.accepted, ready.events] at member
    exact absurd member List.not_mem_nil
  zero _ := by
    refine .inl ⟨?_, ready.zero⟩
    rw [Host.accepted, ready.events]
    rfl

omit [DecidableEq κ] in
theorem ready_allocate (inherited : List (Option Nat)) (fd : Nat) :
    Host.Ready (κ := κ) { (World.start inherited).host with
      table := ((World.start inherited).host.table.allocate (.other fd)).2 } where
  events := rfl
  zero := by
    show ∃ name, (((World.start inherited).host.table.allocate (.other fd)).2).lookup 0 =
      some (.other name)
    rw [DescriptorTable.lookup_zero_allocate]
    cases used : (World.start (κ := κ) inherited).host.table.lookup 0 with
    | none => exact ⟨fd, rfl⟩
    | some target =>
        rw [World.start, DescriptorTable.lookup, List.getElem?_map] at used
        cases slot : inherited[0]? with
        | none =>
            rw [slot] at used
            cases used
        | some name =>
            rw [slot] at used
            obtain ⟨name, _, rfl⟩ := Option.map_eq_some_iff.mp used
            exact ⟨name, rfl⟩

theorem keeps_socket_server {inherited : List (Option Nat)} {next : Option Nat → Process Result}
    (begins : world.host = (World.start inherited).host)
    (failed : ∀ later : World κ,
      Keeps shared (contract server clients) .server post later (next none))
    (opened : ∀ (later : World κ) fd, later.host.Ready →
      Keeps shared (contract server clients) .server post later (next (some fd))) :
    Keeps shared (contract server clients) .server post world
      (.invoke Call.socket >>= next) := by
  refine keeps_host nofun (fun later same answer _ => ?_) fun later same answer _ => ?_
  · cases answer with
    | none =>
        refine ⟨later.host, rfl, ?_, congrArg Host.accepted same, ?_⟩
        · rw [same, begins]
          exact Host.sound_of_events rfl
        · rw [same]
          exact .refl _
    | some fd =>
        refine ⟨_, rfl, ?_, ?_, ?_⟩
        · rw [same, begins]
          exact (ready_allocate inherited fd).idle.toSound
        · rw [same]
          rfl
        · rw [same]
          exact ⟨fun _ => List.prefix_rfl, id, List.Subset.refl _⟩
  · cases answer with
    | none => exact failed _
    | some fd =>
        refine opened _ fd ?_
        have ready := ready_allocate (κ := κ) inherited fd
        rw [← begins, ← same] at ready
        exact ready

theorem keeps_bind_server {sockfd : Nat} {sin_port : UInt16} {next : Bool → Process Result}
    (rest : ∀ later : World κ, later.host = world.host → ∀ bound,
      Keeps shared (contract server clients) .server post later (next bound)) :
    Keeps shared (contract server clients) .server post world
      (.invoke (Call.bind sockfd sin_port) >>= next) :=
  keeps_quiet (fun _ _ => rfl) (fun _ => nofun) fun later others bound _ =>
    rest later others.rely bound

theorem keeps_listen {sockfd : Nat} {next : Bool → Process Result} (ready : world.host.Ready)
    (rest : ∀ (later : World κ) listens, later.host.Ready →
      Keeps shared (contract server clients) .server post later (next listens)) :
    Keeps shared (contract server clients) .server post world
      (.invoke (Call.listen sockfd) >>= next) := by
  refine keeps_host nofun (fun later same listens _ => ?_) fun later same listens _ => ?_
  · cases listens with
    | false =>
        refine ⟨later.host, rfl, ?_, congrArg Host.accepted same, ?_⟩
        · rw [same]
          exact ready.idle.toSound
        · rw [same]
          exact .refl _
    | true =>
        refine ⟨_, rfl, ?_, ?_, ?_⟩
        · rw [same]
          exact Host.sound_of_events ready.events
        · rw [same]
          rfl
        · rw [same]
          exact ⟨fun _ => List.prefix_rfl, id, List.Subset.refl _⟩
  · refine rest _ listens ?_
    rw [← same] at ready
    cases listens with
    | false => exact ready
    | true => exact ⟨ready.events, ready.zero⟩

theorem keeps_server4 {inherited : List (Option Nat)}
    (begins : world.host = (World.start inherited).host) (argv : List CString) (passes : Nat) :
    Keeps shared (contract .server4 clients) .server (fun _ _ => True) world
      (Server4.main argv passes) := by
  match argv with
  | [name, port] =>
      refine keeps_socket_server begins (fun _ => keeps_failWithPerror_server) ?_
      intro world socket_server ready
      refine keeps_bind_server fun later same bound => ?_
      rw [← same] at ready
      cases bound with
      | false => exact keeps_failWithPerror_server
      | true =>
          refine keeps_print_server fun last unchanged => ?_
          rw [← unchanged] at ready
          refine keeps_listen ready fun last listens ready => ?_
          cases listens with
          | false => exact keeps_failWithPerror_server
          | true =>
              exact keeps_loop (fun world _ => world.host.Idle .server4)
                (fun _ _ idle => keeps_pass4 idle socket_server) ready.idle passes
  | [] | [_] | _ :: _ :: _ :: _ =>
      exact keeps_print_server fun _ _ => keeps_print_server fun _ _ => keeps_exit_server

theorem keeps_server6 {inherited : List (Option Nat)}
    (begins : world.host = (World.start inherited).host) (argv : List CString) (passes : Nat) :
    Keeps shared (contract .server6 clients) .server (fun _ _ => True) world
      (Server6.main argv passes) := by
  match argv with
  | [name, portNumber] =>
      refine keeps_socket_server begins (fun _ => keeps_failWithErrno_server) ?_
      intro world socketDescriptor ready
      refine keeps_bind_server fun later same bound => ?_
      rw [← same] at ready
      cases bound with
      | false => exact keeps_failWithErrno_server
      | true =>
          refine keeps_listen ready fun last listens ready => ?_
          cases listens with
          | false => exact keeps_failWithErrno_server
          | true =>
              exact keeps_loop (fun world _ => world.host.Idle .server6)
                (fun _ _ idle => keeps_pass6 idle socketDescriptor) ready.idle passes
  | [] | [_] | _ :: _ :: _ :: _ =>
      exact keeps_print_server fun _ _ => keeps_print_server fun _ _ => keeps_exit_server

end Servers

end NetworkServices.Greeting
