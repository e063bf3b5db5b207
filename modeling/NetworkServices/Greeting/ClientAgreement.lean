import NetworkServices.Greeting.Agreement

/-! The three clients keep to the agreement. -/

set_option autoImplicit false

namespace NetworkServices.Greeting

variable {κ : Type} [DecidableEq κ]

theorem msg_nulFree : 0 ∉ msg := by decide

/-- A front of the greeting leaves room for its end in an array that is longer. -/
theorem received_eq_some {size : Nat} {bytes : Option (List UInt8)} (front : bytes.getD [] <+: msg)
    (room : msg.length < size) : received size bytes = some (bytes.getD []) := by
  have short : (bytes.getD []).length < size := Nat.lt_of_le_of_lt front.length_le room
  have nulFree : 0 ∉ bytes.getD [] := fun member => msg_nulFree (front.subset member)
  obtain ⟨left, padding⟩ : ∃ left, size - (bytes.getD []).length = left + 1 :=
    ⟨size - (bytes.getD []).length - 1, by omega⟩
  have stored : ((Buffer.zeroed size).receive (bytes.getD [])).bytes =
      bytes.getD [] ++ 0 :: List.replicate left 0 := by
    rw [Buffer.receive_bytes _ (Nat.le_of_lt short), overlay, Buffer.zeroed, List.drop_replicate,
      padding]
    rfl
  rw [received]
  rw [stored, if_pos (List.mem_append_right _ List.mem_cons_self),
    cString_append_of_nulFree nulFree, cString_terminated, List.append_nil]

section Clients

variable {server : ServerProgram} {clients : κ → Invocation} {name : κ} {world : World κ}
  {Result : Type} {post : World κ → Result → Prop}

theorem keeps_ask {request : Call} {next : Answer request → Process Result}
    (unchanged : ∀ (world : World κ) answer, Client.after name world request answer = world)
    (other : request ≠ .overrun)
    (rest : ∀ later : World κ, later.client name = world.client name → ∀ answer,
      Keeps shared (contract server clients) (.client name) post later (next answer)) :
    Keeps shared (contract server clients) (.client name) post world (.call request next) :=
  keeps_quiet unchanged (fun _ same => absurd same other) fun later others answer _ =>
    rest later others.rely.1 answer

theorem keeps_print_client {stream : Stream} {text : CString} {next : Unit → Process Result}
    (rest : ∀ later : World κ, later.client name = world.client name →
      Keeps shared (contract server clients) (.client name) post later (next ())) :
    Keeps shared (contract server clients) (.client name) post world
      (.invoke (Call.print stream text) >>= next) :=
  keeps_ask (fun _ _ => rfl) nofun fun later same _ => rest later same

theorem keeps_exit_client {status : ExitStatus} :
    Keeps shared (contract server clients) (.client name) post world (.exit status) :=
  fun _ others => Contract.respects_self others.invariant

theorem keeps_failWithPerror_client {text : String} :
    Keeps shared (contract server clients) (.client name) post world (failWithPerror text) :=
  keeps_print_client fun _ _ => keeps_ask (fun _ _ => rfl) nofun fun _ _ _ => keeps_exit_client

theorem keeps_failWithErrno_client {text : String} :
    Keeps shared (contract server clients) (.client name) post world (failWithErrno text) :=
  keeps_print_client fun _ _ => keeps_ask (fun _ _ => rfl) nofun fun _ _ _ =>
    keeps_print_client fun _ _ => keeps_exit_client

theorem keeps_failToConnect {post : World κ → Unit → Prop} :
    Keeps shared (contract server clients) (.client name) post world failToConnect :=
  keeps_print_client fun _ _ => keeps_ask (fun _ _ => rfl) nofun fun _ _ _ =>
    keeps_ask (fun _ _ => rfl) nofun fun _ _ _ => keeps_print_client fun _ _ => keeps_exit_client

theorem keeps_wrongArguments {post : World κ → Unit → Prop} :
    Keeps shared (contract server clients) (.client name) post world wrongArguments :=
  keeps_print_client fun _ _ => keeps_print_client fun _ _ => keeps_exit_client

theorem respects_updateClient {change : Client → Client} {queue : List κ} (sound : world.Sound server)
    (distinct : (world.host.accepted ++ queue).Nodup)
    (connected : ∀ other ∈ world.host.accepted ++ queue,
      ((world.updateClient name change).client other).connected = true)
    (shows : Shows server (world.updateClient name change) name) :
    (contract server clients).Respects (.client name) world
      { world.updateClient name change with queue } := by
  refine ⟨⟨sound.host, distinct, connected, fun other => ?_⟩, fun party differ => ?_⟩
  · by_cases same : other = name
    · subst same
      exact shows
    · have kept : (world.updateClient name change).client other = world.client other :=
        Function.update_of_ne same _ _
      rw [Shows]
      dsimp only
      rw [kept]
      exact sound.shows other
  · cases party with
    | server => rfl
    | client other =>
        exact ⟨Function.update_of_ne (fun same => differ (congrArg Party.client same)) _ _,
          .refl _⟩

theorem keeps_connect {sockfd : Option Nat} {next : Bool → Process Result}
    (quiet : (world.client name).shown = [])
    (rest : ∀ (later : World κ) connected, (later.client name).shown = [] →
      Keeps shared (contract server clients) (.client name) post later (next connected)) :
    Keeps shared (contract server clients) (.client name) post world
      (.invoke (Call.connect sockfd) >>= next) := by
  intro later others
  have silent : (later.client name).shown = [] := by
    rw [others.rely.1]
    exact quiet
  refine ⟨nofun, fun connected promised => ?_⟩
  cases connected with
  | false => exact ⟨Contract.respects_self others.invariant, rest later false silent⟩
  | true =>
      obtain ⟨_, _, _, unconnected⟩ := promised rfl
      have sound := others.invariant
      have unknown : name ∉ later.host.accepted ++ later.queue := by
        intro member
        rw [sound.connected name member] at unconnected
        cases unconnected
      have updated : (later.updateClient name ({ · with connected := true })).client name =
          { later.client name with connected := true } := Function.update_self _ _ _
      constructor
      · refine respects_updateClient sound ?_ ?_ ?_
        · rw [← List.append_assoc]
          exact List.nodup_append.mpr ⟨sound.distinct, List.pairwise_singleton _ _,
            fun other member last same => by
              rw [List.mem_singleton] at same
              rintro rfl
              exact unknown (same ▸ member)⟩
        · intro other member
          by_cases same : other = name
          · subst same
            rw [updated]
          · rw [World.updateClient]
            dsimp only
            rw [Function.update_of_ne same]
            rw [← List.append_assoc, List.mem_append, List.mem_singleton] at member
            exact sound.connected other (member.resolve_right same)
        · rw [Shows, updated]
          exact .inl silent
      · refine rest _ true ?_
        have after : (shared.after (.client name) later (Call.connect sockfd) true).client name =
            { later.client name with connected := true } := updated
        rw [after]
        exact silent

/-- What is received is a front of the greeting, so it ends inside of the array, and the line is
shown whatever the server does in between. -/
theorem keeps_showReceived {sockfd : Option Nat} {size : Nat} {label : String}
    {next : Unit → Process Result} (room : msg.length < size)
    (quiet : (world.client name).shown = [])
    (rest : ∀ later : World κ,
      Keeps shared (contract server clients) (.client name) post later (next ())) :
    Keeps shared (contract server clients) (.client name) post world
      (showReceived sockfd size label >>= next) := by
  rw [showReceived]
  simp only [bind_assoc]
  refine keeps_quiet (fun _ _ => rfl) (fun _ same => by cases same) fun later others bytes promised => ?_
  have sound := others.invariant
  have silent : (later.client name).shown = [] := by
    rw [others.rely.1]
    exact quiet
  have front : bytes.getD [] <+: later.host.sent name := by
    cases bytes with
    | none => exact List.nil_prefix
    | some bytes => exact promised.2.2.1
  have empty : bytes.getD [] = [] → Gone server later.host name := by
    cases bytes with
    | none => exact fun _ => .inl promised
    | some bytes =>
        intro nothing
        obtain ⟨unsent, ended | ⟨accepted, closed⟩⟩ := promised.2.2.2 nothing
        · exact .inl ended
        · refine (sound.host.waiting name accepted unsent).resolve_right ?_
          rintro ⟨fd, opened⟩
          exact closed fd opened
  have greeting : bytes.getD [] <+: msg := by
    rcases sound.host.sent name with unsent | ⟨greeted, _⟩
    · rw [unsent] at front
      exact front.trans List.nil_prefix
    · rwa [greeted] at front
  simp only [Program.bind, received_eq_some greeting room]
  intro last further
  refine ⟨(fun same => by cases same), fun _ _ => ⟨?_, rest _⟩⟩
  have updated (change : Client → Client) :
      (last.updateClient name change).client name = change (last.client name) :=
    Function.update_self _ _ _
  have kept : last.client name = later.client name := further.rely.1
  show (contract server clients).Respects (.client name) last
    { last.updateClient name fun client =>
        { client with shown := client.shown ++ [bytes.getD []] } with queue := last.queue }
  refine respects_updateClient further.invariant further.invariant.distinct ?_ ?_
  · intro other member
    by_cases same : other = name
    · subst same
      rw [updated]
      exact further.invariant.connected other member
    · rw [World.updateClient]
      dsimp only
      rw [Function.update_of_ne same]
      exact further.invariant.connected other member
  · refine .inr ⟨bytes.getD [], ?_, front.trans (further.rely.2.sent name), fun nothing => ?_⟩
    · rw [updated, kept, silent]
      rfl
    · exact (empty nothing).mono further.rely.2.running further.rely.2.refused

theorem keeps_scanWord {size : Nat} {text : CString} {next : CString → Process Result}
    (tooLong : ¬ ((scanWords 1 text).headD []).length < size → ¬ (clients name).Fits)
    (rest : ∀ word, Keeps shared (contract server clients) (.client name) post world (next word)) :
    Keeps shared (contract server clients) (.client name) post world
      (scanWord size text >>= next) := by
  rw [scanWord]
  by_cases room : ((scanWords 1 text).headD []).length < size
  · simp only [if_pos room]
    exact rest _
  · simp only [if_neg room]
    exact fun later _ => ⟨fun _ => tooLong room, nofun⟩

theorem keeps_client4 (quiet : (world.client name).shown = []) (argv : List CString) :
    Keeps shared (contract server clients) (.client name) (fun _ _ => True) world
      (client4 argv) := by
  match argv with
  | [program, address, port] =>
      refine keeps_ask (fun _ _ => rfl) nofun fun later same socketDescriptor => ?_
      rw [← same] at quiet
      cases socketDescriptor with
      | none => exact keeps_failWithErrno_client
      | some socketDescriptor =>
          refine keeps_connect quiet fun last connected silent => ?_
          cases connected with
          | false => exact keeps_failToConnect
          | true =>
              refine keeps_showReceived (by decide) silent fun _ => ?_
              exact keeps_ask (fun _ _ => rfl) nofun fun _ _ _ => keeps_exit_client
  | [] | [_] | [_, _] | _ :: _ :: _ :: _ :: _ => exact keeps_wrongArguments

theorem keeps_connectAndShow (quiet : (world.client name).shown = []) :
    Keeps shared (contract server clients) (.client name) (fun _ _ => True) world
      connectAndShow := by
  refine keeps_ask (fun _ _ => rfl) nofun fun later same socketDescriptor => ?_
  rw [← same] at quiet
  refine keeps_connect quiet fun last connected silent => ?_
  cases connected with
  | false => exact keeps_failToConnect
  | true =>
      refine keeps_ask (fun _ _ => rfl) nofun fun later same address => ?_
      rw [← same] at silent
      refine keeps_print_client fun last same => ?_
      rw [← same] at silent
      refine keeps_showReceived (by decide) silent fun _ => ?_
      refine keeps_print_client fun _ _ => ?_
      exact keeps_ask (fun _ _ => rfl) nofun fun _ _ _ => keeps_exit_client

theorem keeps_client (quiet : (world.client name).shown = []) (argv : List CString) :
    Keeps shared (contract server clients) (.client name) (fun _ _ => True) world
      (client argv) := by
  match argv with
  | [program, node, service] =>
      refine keeps_ask (fun _ _ => rfl) nofun fun later same ai_family => ?_
      rw [← same] at quiet
      cases ai_family with
      | none => exact keeps_failWithErrno_client
      | some ai_family =>
          show Keeps _ _ _ _ _
            (if ai_family = AF_INET then _ else if ai_family = AF_INET6 then _ else _)
          by_cases ipv4 : ai_family = AF_INET
          · rw [if_pos ipv4]
            refine keeps_print_client fun last same => ?_
            rw [← same] at quiet
            exact keeps_connectAndShow quiet
          · rw [if_neg ipv4]
            by_cases ipv6 : ai_family = AF_INET6
            · rw [if_pos ipv6]
              refine keeps_print_client fun last same => ?_
              rw [← same] at quiet
              exact keeps_connectAndShow quiet
            · rw [if_neg ipv6]
              exact keeps_print_client fun _ _ => keeps_exit_client
  | [] | [_] | [_, _] | _ :: _ :: _ :: _ :: _ => exact keeps_wrongArguments

theorem keeps_client6 (quiet : (world.client name).shown = []) (argv : List CString)
    (invoked : (clients name) = ⟨.client6, argv⟩) :
    Keeps shared (contract server clients) (.client name) (fun _ _ => True) world
      (client6 argv) := by
  match argv with
  | [program, address, port, interface] =>
      refine keeps_ask (fun _ _ => rfl) nofun fun later same socket_server => ?_
      rw [← same] at quiet
      cases socket_server with
      | none => exact keeps_failWithPerror_client
      | some socket_server =>
          refine keeps_scanWord (fun long fits => ?_) fun _ => ?_
          · rw [invoked] at fits
            exact long (fits rfl program address port interface rfl).1
          refine keeps_scanWord (fun long fits => ?_) fun interf => ?_
          · rw [invoked] at fits
            exact long (fits rfl program address port interface rfl).2
          refine keeps_ask (fun _ _ => rfl) nofun fun last same _int => ?_
          rw [← same] at quiet
          show Keeps _ _ _ _ _ (if _int = 0 then _ else _)
          by_cases unknown : _int = 0
          · rw [if_pos unknown]
            exact keeps_failWithPerror_client
          · rw [if_neg unknown]
            refine keeps_connect quiet fun last connected silent => ?_
            cases connected with
            | false => exact keeps_failWithPerror_client
            | true =>
                refine keeps_showReceived (by decide) silent fun _ => ?_
                exact keeps_ask (fun _ _ => rfl) nofun fun _ _ _ => keeps_exit_client
  | [] | [_] | [_, _] | [_, _, _] | _ :: _ :: _ :: _ :: _ :: _ =>
      exact keeps_print_client fun _ _ => keeps_print_client fun _ _ => keeps_exit_client

end Clients

end NetworkServices.Greeting
