import NetworkServices.RawSockets.PingProperties
import NetworkServices.RawSockets.Senders
import NetworkServices.RawSockets.TcpProperties
import NetworkServices.RawSockets.Udpv6Properties

/-! Where the packets of the three senders go. All of them leave on the socket of the first address
for which there was one, behind the option, and to that address. -/

set_option autoImplicit false

namespace NetworkServices.RawSockets

variable {Address : Type}

/-- The address of the socket: those in front of it in the list were refused. -/
structure Chosen (option : SocketOption) (world : World Address) (sockfd : Nat)
    (rp : Addrinfo Address) : Prop where
  first : ∃ before after, world.listed = before ++ rp :: after ∧
    world.attempts = before.map (fun refused => (refused.hints, none)) ++ [(rp.hints, some sockfd)]
  options : world.options = [(sockfd, option)]

/-- The calls of a program are allowed where the packets so far are as required. -/
def SendsOnly (packets : World Address → Prop) (world : World Address) (request : Call Address) :
    Prop :=
  packets world ∧ request ≠ .overflow

section Rules

variable {packets : World Address → Prop} {ended : World Address → ExitStatus → Prop}
  {Result Middle : Type} {post : World Address → Result → Prop} {world : World Address}

/-- A call that changes nothing. -/
theorem meets_quiet {request : Call Address} {next : Answer request → Process Address Result}
    (unchanged : ∀ (world : World Address) answer, (kernel Address).after world request answer = world)
    (other : request ≠ .overflow) (holds : packets world)
    (later : ∀ answer, Meets ((kernel Address).guard (SendsOnly packets)) ended post world
      (next answer)) :
    Meets ((kernel Address).guard (SendsOnly packets)) ended post world (.call request next) := by
  refine ⟨⟨holds, other⟩, fun answer _ => ?_⟩
  rw [Interface.guard, unchanged]
  exact later answer

/-- A program that only says something. -/
structure Quiet (program : Process Address Unit) : Prop where
  meets : ∀ (packets : World Address → Prop) (ended : World Address → ExitStatus → Prop)
    (world : World Address), packets world →
      Meets ((kernel Address).guard (SendsOnly packets)) ended (fun last _ => last = world) world
        program
  whole : program.Whole

theorem quiet_pure : Quiet (pure () : Process Address Unit) :=
  ⟨fun _ _ _ _ => rfl, trivial⟩

theorem quiet_call (request : Call Address) {next : Answer request → Process Address Unit}
    (unchanged : ∀ (world : World Address) answer, (kernel Address).after world request answer = world)
    (other : request ≠ .overflow) (later : ∀ answer, Quiet (next answer)) :
    Quiet (.call request next) :=
  ⟨fun _ _ _ holds => meets_quiet unchanged other holds fun answer =>
    (later answer).meets _ _ _ holds, fun answer => (later answer).whole⟩

theorem quiet_printf (text : String) : Quiet (printf text : Process Address Unit) :=
  quiet_call (.printf (ascii text)) (fun _ _ => rfl) nofun fun _ => quiet_pure

theorem quiet_perror (text : CString) :
    Quiet (.invoke (Call.perror text) : Process Address Unit) :=
  quiet_call (.perror text) (fun _ _ => rfl) nofun fun _ => quiet_pure

theorem quiet_eprintf (text : CString) :
    Quiet (.invoke (Call.eprintf text) : Process Address Unit) :=
  quiet_call (.eprintf text) (fun _ _ => rfl) nofun fun _ => quiet_pure

theorem quiet_complain (text : String) : Quiet (complain text : Process Address Unit) :=
  quiet_call .errno (fun _ _ => rfl) nofun fun _ =>
    quiet_call (.printf _) (fun _ _ => rfl) nofun fun _ => quiet_perror []

theorem quiet_report (retval : Int32) : Quiet (report retval : Process Address Unit) := by
  rw [report]
  split
  · exact quiet_complain _
  · exact quiet_printf _

theorem Quiet.bind {program : Process Address Unit} {next : Unit → Process Address Result}
    (quiet : Quiet program) (holds : packets world)
    (later : Meets ((kernel Address).guard (SendsOnly packets)) ended post world (next ())) :
    Meets ((kernel Address).guard (SendsOnly packets)) ended post world (program >>= next) := by
  refine Meets.bind (quiet.meets _ _ _ holds) ?_
  rintro last _ rfl
  exact later

theorem Quiet.suspends {suspended : World Address → Prop} {program : Process Address Unit}
    {next : Unit → Process Address Result} (quiet : Quiet program)
    (later : Suspends (kernel Address) suspended post world (next ())) :
    Suspends (kernel Address) suspended post world (program >>= next) := by
  have meets := quiet.meets (fun _ => True) (fun _ _ => True) world trivial
  refine (meets.suspends quiet.whole).bind ?_
  rintro last _ rfl
  exact later

end Rules

/-- Nothing was to be sent, and nothing has come in. -/
def Fresh (world : World Address) : Prop :=
  world.forked = none ∧ world.calls = [] ∧ world.sent = [] ∧ world.received = [] ∧
    world.shown = []

theorem Fresh.calls {world : World Address} (fresh : Fresh world) : world.calls = [] := fresh.2.1

theorem Fresh.sent {world : World Address} (fresh : Fresh world) : world.sent = [] := fresh.2.2.1

theorem Fresh.silent {world : World Address} (fresh : Fresh world) :
    world.calls = [] ∧ world.sent = [] := ⟨fresh.calls, fresh.sent⟩

/-- What is left behind by the search for a socket that has failed so far. -/
structure Searching (world : World Address) (tried : List (Addrinfo Address)) : Prop where
  attempts : world.attempts = tried.map fun refused => (refused.hints, none)
  options : world.options = []
  fresh : Fresh world

section OpenSocket

variable {packets : World Address → Prop} {option : SocketOption}
  {refused rejected created exhausted : Process Address Unit}

theorem meets_openSocket (silent : ∀ world : World Address, Fresh world → packets world)
    (quiet : ∀ program ∈ [refused, rejected, created, exhausted], Quiet program)
    {results tried : List (Addrinfo Address)} {world : World Address}
    (searching : Searching world tried) (listed : world.listed = tried ++ results) :
    Meets ((kernel Address).guard (SendsOnly packets))
      (fun last status => status = .failure ∧ Fresh last)
      (fun last found => Chosen option last found.1 found.2 ∧ Fresh last) world
      (openSocket option refused rejected created exhausted results) := by
  induction results generalizing tried world with
  | nil =>
      exact (quiet exhausted (by simp)).bind (silent _ searching.fresh) ⟨rfl, searching.fresh⟩
  | cons rp rest ih =>
      refine ⟨⟨silent _ searching.fresh, nofun⟩, fun answer _ => ?_⟩
      cases answer with
      | none =>
          refine (quiet refused (by simp)).bind (silent _ searching.fresh) ?_
          refine @ih (tried ++ [rp]) _ ⟨?_, searching.options, searching.fresh⟩ ?_
          · show world.attempts ++ [(rp.hints, none)] = _
            rw [searching.attempts, List.map_append]
            rfl
          · exact listed.trans (List.append_cons tried rp rest)
      | some sockfd =>
          refine ⟨⟨silent _ searching.fresh, nofun⟩, fun accepted _ => ?_⟩
          cases accepted with
          | false =>
              exact (quiet rejected (by simp)).bind (silent _ searching.fresh) ⟨rfl, searching.fresh⟩
          | true =>
              refine (quiet created (by simp)).bind (silent _ searching.fresh) ?_
              refine ⟨⟨⟨tried, rest, listed, ?_⟩, ?_⟩, searching.fresh⟩
              · show world.attempts ++ [(rp.hints, some sockfd)] = _
                rw [searching.attempts]
              · show world.options ++ [(sockfd, option)] = _
                rw [searching.options]
                rfl

theorem whole_openSocket
    (quiet : ∀ program ∈ [refused, rejected, created, exhausted], Quiet program)
    (results : List (Addrinfo Address)) :
    (openSocket option refused rejected created exhausted results).Whole := by
  induction results with
  | nil => exact (quiet exhausted (by simp)).whole.bind fun _ => trivial
  | cons rp rest ih =>
      intro answer
      cases answer with
      | none => exact (quiet refused (by simp)).whole.bind fun _ => ih
      | some sockfd =>
          intro accepted
          cases accepted with
          | false => exact (quiet rejected (by simp)).whole.bind fun _ => trivial
          | true => exact (quiet created (by simp)).whole.bind fun _ => trivial

/-- The resolver that fails, or the loop over what it has listed. -/
theorem meets_resolved {failed : Prop} [Decidable failed] {pid : Int32}
    {result : List (Addrinfo Address)} {stop : Process Address Unit}
    {next : Nat × Addrinfo Address → Process Address Unit}
    {ended : World Address → ExitStatus → Prop} {post : World Address → Unit → Prop}
    (silent : ∀ world : World Address, Fresh world → packets world)
    (failure : ∀ world : World Address, Fresh world → ended world .failure)
    (quiet : ∀ program ∈ [refused, rejected, created, exhausted], Quiet program)
    (stopped : Meets ((kernel Address).guard (SendsOnly packets)) ended post
      { pid, listed := result } stop)
    (later : ∀ world sockfd rp, Chosen option world sockfd rp → Fresh world →
      Meets ((kernel Address).guard (SendsOnly packets)) ended post world (next (sockfd, rp))) :
    Meets ((kernel Address).guard (SendsOnly packets)) ended post { pid, listed := result }
      (if failed then stop
        else openSocket option refused rejected created exhausted result >>= next) := by
  split
  · exact stopped
  · have searching : Searching ({ pid, listed := result } : World Address) [] :=
      ⟨rfl, rfl, rfl, rfl, rfl, rfl, rfl⟩
    refine Meets.sequence (meets_openSocket silent quiet searching rfl) ?_ ?_
    · rintro world status ⟨rfl, fresh⟩
      exact failure world fresh
    · rintro world ⟨sockfd, rp⟩ ⟨chosen, fresh⟩
      exact later world sockfd rp chosen fresh

theorem suspends_resolved {failed : Prop} [Decidable failed] {pid : Int32}
    {result : List (Addrinfo Address)} {stop : Process Address Unit}
    {next : Nat × Addrinfo Address → Process Address Unit} {suspended : World Address → Prop}
    (quiet : ∀ program ∈ [refused, rejected, created, exhausted], Quiet program)
    (stopped : stop.Whole)
    (later : ∀ world sockfd rp, Chosen option world sockfd rp → Fresh world →
      Suspends (kernel Address) suspended (fun _ _ => True) world (next (sockfd, rp))) :
    Suspends (kernel Address) suspended (fun _ _ => True) { pid, listed := result }
      (if failed then stop
        else openSocket option refused rejected created exhausted result >>= next) := by
  split
  · exact stopped.suspends
  · have searching : Searching ({ pid, listed := result } : World Address) [] :=
      ⟨rfl, rfl, rfl, rfl, rfl, rfl, rfl⟩
    have meets := @meets_openSocket _ (fun _ => True) option _ _ _ _ (fun _ _ => trivial) quiet
      result _ _ searching rfl
    refine (meets.suspends (whole_openSocket quiet result)).bind ?_
    rintro world ⟨sockfd, rp⟩ ⟨chosen, fresh⟩
    exact later world sockfd rp chosen fresh

end OpenSocket

/-- So many calls of `sendto`, one for the same packet after the other, on the socket of the
address they go to. -/
structure Sending (option : SocketOption) (sockfd : Nat) (rp : Addrinfo Address)
    (bytes : List UInt8) (passes : Nat) (world : World Address) : Prop where
  chosen : Chosen option world sockfd rp
  calls : world.calls.map Prod.fst = List.replicate passes (sockfd, bytes, rp.ai_addr)
  sent : ∀ packet ∈ world.sent, packet = (sockfd, bytes, rp.ai_addr)

/-- Every pass was one call for the datagram. -/
def SendsEach (option : SocketOption) (datagram : Address → Option (List UInt8)) (passes : Nat)
    (world : World Address) : Prop :=
  ∃ sockfd rp bytes, datagram rp.ai_addr = some bytes ∧
    Sending option sockfd rp bytes passes world

def SendsOne (option : SocketOption) (datagram : Address → Option (List UInt8))
    (world : World Address) : Prop :=
  world.calls = [] ∧ world.sent = [] ∨ ∃ passes, SendsEach option datagram passes world

section SendLoop

variable {option : SocketOption} {datagram : Address → Option (List UInt8)}
  {ended : World Address → ExitStatus → Prop} {world : World Address} {sockfd passes : Nat}
  {rp : Addrinfo Address} {bytes : List UInt8}

theorem Sending.start (chosen : Chosen option world sockfd rp) (fresh : Fresh world) :
    Sending option sockfd rp bytes 0 world := by
  refine ⟨chosen, congrArg (List.map Prod.fst) fresh.calls, ?_⟩
  rw [fresh.sent]
  exact fun packet member => absurd member List.not_mem_nil

theorem Sending.sendto (sending : Sending option sockfd rp bytes passes world) (retval : Int32) :
    Sending option sockfd rp bytes (passes + 1)
      ((kernel Address).after world (.sendto sockfd bytes rp.ai_addr) retval) := by
  refine ⟨⟨sending.chosen.first, sending.chosen.options⟩, ?_, ?_⟩
  · change (world.calls ++ [_]).map Prod.fst = _
    rw [List.map_append, sending.calls, List.replicate_succ']
    rfl
  · change ∀ packet ∈ (if retval = -1 then world.sent else _), _
    split
    · exact sending.sent
    · intro packet member
      rcases List.mem_append.mp member with earlier | last
      · exact sending.sent packet earlier
      · exact List.mem_singleton.mp last

/-- One pass sends the packet once, and does not leave the loop. -/
theorem meets_sendPass (computed : datagram rp.ai_addr = some bytes)
    (sending : Sending option sockfd rp bytes passes world) :
    Meets ((kernel Address).guard (SendsOnly (SendsOne option datagram))) ended
      (fun next outcome => outcome = .inl () ∧ Sending option sockfd rp bytes (passes + 1) next)
      world (sendPass sockfd bytes rp.ai_addr) := by
  have holds {passes : Nat} {world : World Address}
      (sending : Sending option sockfd rp bytes passes world) : SendsOne option datagram world :=
    .inr ⟨passes, sockfd, rp, bytes, computed, sending⟩
  refine ⟨⟨holds sending, nofun⟩, fun retval _ => ?_⟩
  have later := sending.sendto retval
  exact (quiet_report retval).bind (holds later) ⟨⟨holds later, nofun⟩, fun _ _ => ⟨rfl, later⟩⟩

/-- The last loop, which is never left. -/
theorem meets_sendLoop (computed : datagram rp.ai_addr = some bytes)
    (sending : Sending option sockfd rp bytes 0 world) (passes : Nat) :
    Meets ((kernel Address).guard (SendsOnly (SendsOne option datagram))) ended (fun _ _ => False)
      world (.loop (fun _ => sendPass sockfd bytes rp.ai_addr) passes ()) := by
  refine meets_loop (fun world _ => ∃ passes, Sending option sockfd rp bytes passes world) ?_
    ⟨0, sending⟩ passes
  rintro world _ ⟨sofar, sending⟩
  refine (meets_sendPass computed sending).mono (fun _ _ holds => holds) ?_
  rintro next _ ⟨rfl, sending⟩
  exact ⟨sofar + 1, sending⟩

theorem suspends_sendLoop (computed : datagram rp.ai_addr = some bytes)
    (sending : Sending option sockfd rp bytes 0 world) (passes : Nat) :
    Suspends (kernel Address) (SendsEach option datagram passes) (fun _ _ => True) world
      (.loop (fun _ => sendPass sockfd bytes rp.ai_addr) passes ()) := by
  refine suspends_loop (fun left world _ => ∃ sofar, sofar + left = passes ∧
    Sending option sockfd rp bytes sofar world) ?_ ?_ ⟨0, Nat.zero_add passes, sending⟩
  · rintro left world _ ⟨sofar, total, sending⟩
    have whole : (sendPass sockfd bytes rp.ai_addr).Whole :=
      fun retval => (quiet_report retval).whole.bind fun _ _ => trivial
    have pass := @meets_sendPass _ option datagram (fun _ _ => True) _ _ _ _ _ computed sending
    refine (pass.suspends whole).mono ?_
    rintro next _ ⟨rfl, sending⟩
    exact ⟨sofar + 1, by omega, sending⟩
  · rintro world _ ⟨sofar, total, sending⟩
    obtain rfl : sofar = passes := total
    exact ⟨sockfd, rp, bytes, computed, sending⟩

end SendLoop

/-- What holds at every exit of a program that sends without end. -/
def FailsSilently (world : World Address) (status : ExitStatus) : Prop :=
  status = .failure ∧ world.calls = [] ∧ world.sent = []

theorem meets_tcp (order : ByteOrder) (argv : List CString) (passes : Nat) :
    Meets ((kernel InAddr).guard (SendsOnly (SendsOne (.IP_HDRINCL 1) fun destination =>
      Tcp.sent order destination (argv.getD 2 [])))) FailsSilently (fun _ _ => False) {}
      (Tcp.main order argv passes) := by
  match argv with
  | [name, node, port] =>
      refine ⟨⟨.inl ⟨rfl, rfl⟩, nofun⟩, fun ⟨retval, result⟩ _ => ?_⟩
      refine meets_resolved (fun _ fresh => .inl fresh.silent) (fun _ fresh => ⟨rfl, fresh.silent⟩) ?_ ?_
        fun world sockfd rp chosen fresh => ?_
      · simp [quiet_complain, quiet_pure]
      · exact (quiet_complain _).bind (.inl ⟨rfl, rfl⟩) ⟨rfl, rfl, rfl⟩
      · refine (quiet_printf _).bind (.inl fresh.silent) ?_
        obtain ⟨ipHeader, check, _, computed, _⟩ := Tcp.sent_eq_some order rp.ai_addr port
        show Meets _ _ _ _ (orOverflow (Tcp.sent order rp.ai_addr port) >>= _)
        rw [computed]
        exact meets_sendLoop computed (.start chosen fresh) passes
  | [] | [_] | [_, _] | _ :: _ :: _ :: _ :: _ =>
      exact (quiet_printf _).bind (.inl ⟨rfl, rfl⟩) ⟨rfl, rfl, rfl⟩

theorem meets_udpv6 (order : ByteOrder) (argv : List CString) (passes : Nat) :
    Meets ((kernel SockaddrIn6).guard (SendsOnly (SendsOne (.IPV6_CHECKSUM 6) fun address =>
      Udpv6.sent order address (argv.getD 2 [])))) FailsSilently (fun _ _ => False) {}
      (Udpv6.main order argv passes) := by
  match argv with
  | [name, node, port] =>
      refine ⟨⟨.inl ⟨rfl, rfl⟩, nofun⟩, fun ⟨retval, result⟩ _ => ?_⟩
      refine meets_resolved (fun _ fresh => .inl fresh.silent) (fun _ fresh => ⟨rfl, fresh.silent⟩) ?_ ?_
        fun world sockfd rp chosen fresh => ?_
      · simp [quiet_complain, quiet_printf]
      · exact (quiet_complain _).bind (.inl ⟨rfl, rfl⟩) ⟨rfl, rfl, rfl⟩
      · have computed := Udpv6.sent_eq_some order rp.ai_addr port
        show Meets _ _ _ _ (orOverflow (Udpv6.sent order rp.ai_addr port) >>= _)
        rw [computed]
        exact (quiet_printf _).bind (.inl fresh.silent)
          (meets_sendLoop computed (.start chosen fresh) passes)
  | [] | [_] | [_, _] | _ :: _ :: _ :: _ :: _ =>
      exact (quiet_printf _).bind (.inl ⟨rfl, rfl⟩) ⟨rfl, rfl, rfl⟩

theorem suspends_tcp (order : ByteOrder) (argv : List CString) (passes : Nat) :
    Suspends (kernel InAddr) (SendsEach (.IP_HDRINCL 1) (fun destination =>
      Tcp.sent order destination (argv.getD 2 [])) passes) (fun _ _ => True) {}
      (Tcp.main order argv passes) := by
  match argv with
  | [name, node, port] =>
      intro ⟨retval, result⟩ _
      refine suspends_resolved (by simp [quiet_complain, quiet_pure]) ?_
        fun world sockfd rp chosen fresh => ?_
      · exact (quiet_complain _).whole.bind fun _ => trivial
      · refine (quiet_printf _).suspends ?_
        obtain ⟨ipHeader, check, _, computed, _⟩ := Tcp.sent_eq_some order rp.ai_addr port
        show Suspends _ _ _ _ (orOverflow (Tcp.sent order rp.ai_addr port) >>= _)
        rw [computed]
        exact suspends_sendLoop computed (.start chosen fresh) passes
  | [] | [_] | [_, _] | _ :: _ :: _ :: _ :: _ =>
      exact (quiet_printf _).suspends trivial

theorem suspends_udpv6 (order : ByteOrder) (argv : List CString) (passes : Nat) :
    Suspends (kernel SockaddrIn6) (SendsEach (.IPV6_CHECKSUM 6) (fun address =>
      Udpv6.sent order address (argv.getD 2 [])) passes) (fun _ _ => True) {}
      (Udpv6.main order argv passes) := by
  match argv with
  | [name, node, port] =>
      intro ⟨retval, result⟩ _
      refine suspends_resolved (by simp [quiet_complain, quiet_printf]) ?_
        fun world sockfd rp chosen fresh => ?_
      · exact (quiet_complain _).whole.bind fun _ => trivial
      · have computed := Udpv6.sent_eq_some order rp.ai_addr port
        show Suspends _ _ _ _ (orOverflow (Udpv6.sent order rp.ai_addr port) >>= _)
        rw [computed]
        exact (quiet_printf _).suspends
          (suspends_sendLoop computed (.start chosen fresh) passes)
  | [] | [_] | [_, _] | _ :: _ :: _ :: _ :: _ =>
      exact (quiet_printf _).suspends trivial

/-!
## The two processes of `ping.cpp`
-/

/-- What the child has sent: the requests in their order. -/
structure Requested (draws : Nat → Nat → Ping.Draw) (world : World Address) (sockfd : Nat)
    (rp : Addrinfo Address) : Prop where
  chosen : Chosen (.IP_TTL 128) world sockfd rp
  child : world.forked = some 0
  messages : ∀ k (inside : k < world.sent.length), ∃ bytes,
    world.sent[k] = (sockfd, bytes, rp.ai_addr) ∧
      Ping.EchoMessage 8 world.pid.toUInt32.toUInt16 (UInt16.ofNat (1 + k))
        (Ping.letters (draws (1 + k))) bytes

def SendsRequests (draws : Nat → Nat → Ping.Draw) (world : World Address) : Prop :=
  world.sent = [] ∨ world.sent.length ≤ 4 ∧ ∃ sockfd rp, Requested draws world sockfd rp

/-- Only the child sends, and it ends well when it has sent all of its packets. -/
structure PingExits (draws : Nat → Nat → Ping.Draw) (world : World Address)
    (status : ExitStatus) : Prop where
  packets : SendsRequests draws world
  all : world.forked = some 0 → status = .success → world.sent.length = 4
  child : world.forked ≠ some 0 → world.sent = []

section Ping

variable {draws : Nat → Nat → Ping.Draw} {world : World Address} {sockfd : Nat}
  {rp : Addrinfo Address} {post : World Address → Unit → Prop}

theorem requested_nil (chosen : Chosen (.IP_TTL 128) world sockfd rp)
    (child : world.forked = some 0) (silent : world.sent = []) :
    Requested draws world sockfd rp := by
  refine ⟨chosen, child, fun k inside => ?_⟩
  rw [silent] at inside
  exact absurd inside (Nat.not_lt_zero k)

theorem Requested.send {bytes : List UInt8} (requested : Requested draws world sockfd rp)
    (message : Ping.EchoMessage 8 world.pid.toUInt32.toUInt16
      (UInt16.ofNat (1 + world.sent.length)) (Ping.letters (draws (1 + world.sent.length))) bytes)
    (calls : List ((Nat × List UInt8 × Address) × Int32)) :
    Requested draws
      { world with calls, sent := world.sent ++ [(sockfd, bytes, rp.ai_addr)] } sockfd rp where
  chosen := ⟨requested.chosen.first, requested.chosen.options⟩
  child := requested.child
  messages := by
    intro k inside
    rw [List.length_append, List.length_singleton] at inside
    rcases Nat.lt_or_ge k world.sent.length with earlier | last
    · obtain ⟨old, same, echo⟩ := requested.messages k earlier
      exact ⟨old, (List.getElem_append_left earlier).trans same, echo⟩
    · obtain rfl : k = world.sent.length := by omega
      exact ⟨bytes, List.getElem_concat_length rfl _, message⟩

theorem Requested.failed (requested : Requested draws world sockfd rp)
    (calls : List ((Nat × List UInt8 × Address) × Int32)) :
    Requested draws { world with calls } sockfd rp :=
  ⟨⟨requested.chosen.first, requested.chosen.options⟩, requested.child, requested.messages⟩

/-- The only negative result of `sendto`. -/
theorem eq_neg_one_of_neg {retval : Int32} (least : -1 ≤ retval) (negative : retval < 0) :
    retval = -1 := by
  rw [Int32.le_iff_toInt_le] at least
  rw [Int32.lt_iff_toInt_lt] at negative
  rw [← Int32.toInt_inj]
  have zero : (0 : Int32).toInt = 0 := rfl
  have minus : (-1 : Int32).toInt = -1 := rfl
  omega

theorem after_sendto {retval : Int32} {bytes : List UInt8} {dest_addr : Address}
    (sent : ¬ retval < 0) :
    (kernel Address).after world (.sendto sockfd bytes dest_addr) retval =
      { world with
        calls := world.calls ++ [((sockfd, bytes, dest_addr), retval)]
        sent := world.sent ++ [(sockfd, bytes, dest_addr)] } := by
  have other : retval ≠ -1 := by
    rintro rfl
    have negative : (-1 : Int32) < 0 := by decide
    exact sent negative
  rw [kernel]
  dsimp only
  rw [if_neg other]

theorem meets_sendRequests (order : ByteOrder) {passes i : Nat} (datagram : Ping.Datagram)
    (requested : Requested draws world sockfd rp) (count : world.sent.length + passes = 4)
    (number : i = 1 + world.sent.length) :
    Meets ((kernel Address).guard (SendsOnly (SendsRequests draws))) (PingExits draws) post world
      (Ping.sendRequests order draws sockfd rp.ai_addr passes i datagram) := by
  subst number
  induction passes generalizing world datagram with
  | zero =>
      exact ⟨.inr ⟨by omega, sockfd, rp, requested⟩, fun _ _ => by omega, fun other =>
        absurd requested.child other⟩
  | succ passes ih =>
      have holds : SendsRequests draws world := .inr ⟨by omega, sockfd, rp, requested⟩
      refine ⟨⟨holds, nofun⟩, fun pid promised => ?_⟩
      obtain rfl : pid = world.pid := promised
      obtain ⟨filled, done⟩ := Ping.fill_total order world.pid (draws (1 + world.sent.length))
        (1 + world.sent.length) datagram
      show Meets _ _ _ world (orOverflow (Ping.fill order world.pid _ _ datagram) >>= _)
      rw [done]
      refine ⟨⟨holds, nofun⟩, fun sent promised => ?_⟩
      by_cases failed : sent < 0
      · obtain rfl : sent = -1 := eq_neg_one_of_neg promised failed
        have few : world.sent.length ≤ 4 := by omega
        have holds : SendsRequests draws { world with
            calls := world.calls ++ [((sockfd, filled.bytes order, rp.ai_addr), -1)] } :=
          .inr ⟨few, sockfd, rp, requested.failed _⟩
        refine meets_quiet (fun _ _ => rfl) nofun holds fun _ => ?_
        exact ⟨holds, nofun, fun other => absurd requested.child other⟩
      · have more := requested.send (Ping.fill_message done)
          (world.calls ++ [((sockfd, filled.bytes order, rp.ai_addr), sent)])
        have length : (world.sent ++ [(sockfd, filled.bytes order, rp.ai_addr)]).length =
            world.sent.length + 1 := by simp
        have few : (world.sent ++ [(sockfd, filled.bytes order, rp.ai_addr)]).length ≤ 4 := by
          omega
        have all : SendsRequests draws { world with
            calls := world.calls ++ [((sockfd, filled.bytes order, rp.ai_addr), sent)]
            sent := world.sent ++ [(sockfd, filled.bytes order, rp.ai_addr)] } :=
          .inr ⟨few, sockfd, rp, more⟩
        show Meets _ _ _ ((kernel Address).after world _ sent) (if sent < 0 then _ else _)
        rw [after_sendto failed, if_neg failed]
        refine (quiet_printf _).bind all (meets_quiet (fun _ _ => rfl) nofun all fun _ => ?_)
        have next := ih filled more (by rw [length]; omega)
        rw [length, ← Nat.add_assoc] at next
        exact next

theorem meets_showReplies (order : ByteOrder) {passes : Nat} (datagram : Buffer 40)
    (silent : world.sent = []) (parent : world.forked ≠ some 0) :
    Meets ((kernel Address).guard (SendsOnly (SendsRequests draws))) (PingExits draws) post world
      (Ping.showReplies order sockfd passes datagram) := by
  induction passes generalizing world datagram with
  | zero => exact ⟨.inl silent, fun child => absurd child parent, fun _ => silent⟩
  | succ passes ih =>
      refine ⟨⟨.inl silent, nofun⟩, fun packet _ => ?_⟩
      exact ⟨⟨.inl silent, nofun⟩, fun _ _ => ih _ silent parent⟩

theorem pingExits_failure (silent : world.sent = []) : PingExits draws world .failure :=
  ⟨.inl silent, nofun, fun _ => silent⟩

theorem meets_failToFork (silent : world.sent = []) :
    Meets ((kernel Address).guard (SendsOnly (SendsRequests draws))) (PingExits draws) post world
      Ping.failToFork :=
  meets_quiet (fun _ _ => rfl) nofun (.inl silent) fun _ =>
    meets_quiet (fun _ _ => rfl) nofun (.inl silent) fun _ => pingExits_failure silent

theorem meets_ping (order : ByteOrder) (pid : Int32) (request : Ping.Datagram)
    (reply : Buffer 40) (argv : List CString) :
    Meets ((kernel Address).guard (SendsOnly (SendsRequests draws))) (PingExits draws)
      (fun _ _ => False) { pid } (Ping.main order draws request reply argv) := by
  match argv with
  | [name, node] =>
      refine ⟨⟨.inl rfl, nofun⟩, fun ⟨retval, result⟩ _ => ?_⟩
      refine meets_resolved (fun _ fresh => .inl fresh.sent)
        (fun _ fresh => pingExits_failure fresh.sent) ?_ (meets_failToFork rfl)
        fun world sockfd rp chosen fresh => ?_
      · simp only [List.forall_mem_cons, List.not_mem_nil, false_implies, implies_true, and_true]
        exact ⟨quiet_perror _, quiet_perror _, quiet_pure, quiet_eprintf _⟩
      · have silent := fresh.sent
        refine ⟨⟨.inl silent, nofun⟩, fun ppid _ => ?_⟩
        show Meets _ _ _ { world with forked := some ppid }
          (if ppid = 0 then _ else if ppid > 0 then _ else _)
        by_cases child : ppid = 0
        · subst child
          rw [if_pos rfl]
          refine (quiet_printf _).bind (.inl silent) ?_
          exact meets_sendRequests order request
            (requested_nil ⟨chosen.first, chosen.options⟩ rfl silent)
            (congrArg (List.length · + 4) silent) (congrArg (1 + List.length ·) silent).symm
        · rw [if_neg child]
          have parent : (some ppid : Option Int32) ≠ some 0 := fun same =>
            child (Option.some.inj same)
          by_cases positive : ppid > 0
          · rw [if_pos positive]
            exact (quiet_printf _).bind (.inl silent) (meets_showReplies order reply silent parent)
          · rw [if_neg positive]
            exact meets_failToFork silent
  | [] | [_] | _ :: _ :: _ :: _ =>
      exact meets_quiet (fun _ _ => rfl) nofun (.inl rfl) fun _ => pingExits_failure rfl

theorem whole_sendRequests (order : ByteOrder) (ai_addr : Address) {passes i : Nat}
    (datagram : Ping.Datagram) :
    (Ping.sendRequests order draws sockfd ai_addr passes i datagram).Whole := by
  induction passes generalizing i datagram with
  | zero => trivial
  | succ passes ih =>
      intro pid
      show Program.Whole (orOverflow (Ping.fill order pid (draws i) i datagram) >>= _)
      refine Program.Whole.bind ?_ ?_
      · cases Ping.fill order pid (draws i) i datagram with
        | none => exact fun overflow => Empty.elim overflow
        | some filled => trivial
      · intro filled sent
        by_cases failed : sent < 0
        · show Program.Whole (if sent < 0 then _ else _)
          rw [if_pos failed]
          exact fun _ => trivial
        · show Program.Whole (if sent < 0 then _ else _)
          rw [if_neg failed]
          exact fun _ _ => ih filled

theorem whole_showReplies (order : ByteOrder) {passes : Nat} (datagram : Buffer 40) :
    (Ping.showReplies order sockfd passes datagram : Process Address Unit).Whole := by
  induction passes generalizing datagram with
  | zero => trivial
  | succ passes ih => exact fun packet _ => ih _

/-- The loops of `ping.cpp` have four passes each. -/
theorem whole_ping (order : ByteOrder) (request : Ping.Datagram) (reply : Buffer 40)
    (argv : List CString) :
    (Ping.main order draws request reply argv : Process InAddr Unit).Whole := by
  match argv with
  | [name, node] =>
      intro ⟨retval, result⟩
      show Program.Whole (if retval ≠ 0 then _ else _)
      split
      · exact fun _ _ => trivial
      · have quiet : ∀ program ∈ [.invoke (Call.perror (ascii "socket()")),
            .invoke (Call.perror (ascii "setsockopt()")), pure (),
            .invoke (Call.eprintf (ascii "Client failure: could not create socket.\n"))],
            Quiet (program : Process InAddr Unit) := by
          simp only [List.forall_mem_cons, List.not_mem_nil, false_implies, implies_true, and_true]
          exact ⟨quiet_perror _, quiet_perror _, quiet_pure, quiet_eprintf _⟩
        refine (whole_openSocket quiet result).bind ?_
        intro ⟨sockfd, rp⟩ ppid
        show Program.Whole (if ppid = 0 then _ else if ppid > 0 then _ else _)
        split
        · exact fun _ => whole_sendRequests order rp.ai_addr request
        · split
          · exact fun _ => whole_showReplies order reply
          · exact fun _ _ => trivial
  | [] | [_] | _ :: _ :: _ :: _ => exact fun _ => trivial

end Ping

/-!
## The runs
-/

/-- What the packets are like in front of every call, the state at every exit, and the state behind
the passes that an endless loop was given. The program never returns, and no checksum overflows. -/
structure Abides (packets : World Address → Prop) (ended : World Address → ExitStatus → Prop)
    (suspended : World Address → Prop) (start : World Address) (program : Process Address Unit) :
    Prop where
  calls : ∀ trace last request next,
    Reaches (kernel Address) start program trace last (.call request next) →
      packets last ∧ request ≠ .overflow
  exits : ∀ trace last status,
    Reaches (kernel Address) start program trace last (.exit status) → ended last status
  passes : ∀ trace last, Reaches (kernel Address) start program trace last .cut → suspended last
  stays : ∀ trace last result,
    ¬ Reaches (kernel Address) start program trace last (.done result)

theorem abides_of_meets {packets suspended : World Address → Prop}
    {ended : World Address → ExitStatus → Prop} {start : World Address}
    {program : Process Address Unit}
    (meets : Meets ((kernel Address).guard (SendsOnly packets)) ended (fun _ _ => False) start
      program)
    (suspends : Suspends (kernel Address) suspended (fun _ _ => True) start program) :
    Abides packets ended suspended start program where
  calls _ _ _ _ run := (meets.reaches (run.guard _)).1
  exits _ _ _ run := meets.reaches (run.guard _)
  passes _ _ run := suspends.reaches run
  stays _ _ _ run := meets.reaches (run.guard _)

/-- For any answers of the resolver and the kernel, what the three programs send goes to the first
address for which there was a socket, on that socket and behind its option. `tcp.c` and `udpv6.c`
send the same datagram without end: they exit only before their first call of `sendto`, and behind
any number of passes there was one call of it for each of them. The child of `ping.cpp` sends the
four requests in their order, and no loop of that program goes on without end. -/
theorem senders_send (order : ByteOrder) (argv : List CString) :
    (∀ passes, Abides
      (SendsOne (.IP_HDRINCL 1) fun destination => Tcp.sent order destination (argv.getD 2 []))
      FailsSilently
      (SendsEach (.IP_HDRINCL 1) (fun destination => Tcp.sent order destination (argv.getD 2 []))
        passes) {} (Tcp.main order argv passes)) ∧
    (∀ passes, Abides
      (SendsOne (.IPV6_CHECKSUM 6) fun address => Udpv6.sent order address (argv.getD 2 []))
      FailsSilently
      (SendsEach (.IPV6_CHECKSUM 6) (fun address => Udpv6.sent order address (argv.getD 2 []))
        passes) {} (Udpv6.main order argv passes)) ∧
    ∀ (pid : Int32) (draws : Nat → Nat → Ping.Draw) (request : Ping.Datagram) (reply : Buffer 40),
      Abides (@SendsRequests InAddr draws) (PingExits draws) (fun _ => False) { pid }
        (Ping.main order draws request reply argv) := by
  refine ⟨fun passes => ?_, fun passes => ?_, fun pid draws request reply => ?_⟩
  · exact abides_of_meets (meets_tcp order argv passes) (suspends_tcp order argv passes)
  · exact abides_of_meets (meets_udpv6 order argv passes) (suspends_udpv6 order argv passes)
  · exact abides_of_meets (meets_ping order pid request reply argv)
      ((meets_ping order pid request reply argv).suspends (whole_ping order request reply argv)
        |>.mono fun _ _ _ => trivial)

/-- There is a run up to there, behind which something holds. -/
def Comes (left : Process Address Unit) (goal : World Address → Prop) (world : World Address)
    (program : Process Address Unit) : Prop :=
  ∃ trace last, Reaches (kernel Address) world program trace last left ∧ goal last

theorem comes_call {left : Process Address Unit} {goal : World Address → Prop}
    {world : World Address} {request : Call Address}
    {next : Answer request → Process Address Unit} (answer : Answer request)
    (promised : (kernel Address).promise world request answer)
    (later : Comes left goal ((kernel Address).after world request answer) (next answer)) :
    Comes left goal world (.call request next) := by
  obtain ⟨trace, last, run, holds⟩ := later
  exact ⟨_, last, .step promised run, holds⟩

/-- Two passes of `tcp.c`, whose first packet is refused. -/
theorem senders_send_twice : ∃ trace last,
    Reaches (kernel InAddr) {}
        (Tcp.main .littleEndian [ascii "tcp", ascii "host", ascii "80"] 2) trace last .cut ∧
      last.sent.length = 1 ∧
      SendsEach (.IP_HDRINCL 1) (fun destination => Tcp.sent .littleEndian destination (ascii "80"))
        2 last := by
  have refused : (-1 : Int32) ≤ -1 := by decide
  have accepted : (-1 : Int32) ≤ 40 := by decide
  have comes : Comes .cut (fun last => last.sent.length = 1) {}
      (Tcp.main .littleEndian [ascii "tcp", ascii "host", ascii "80"] 2) := by
    refine comes_call (0, [⟨⟨2, 3, 6⟩, #v[10, 0, 0, 1]⟩]) (absurd rfl) ?_
    refine comes_call (some 3) trivial (comes_call true trivial (comes_call () trivial ?_))
    obtain ⟨ipHeader, check, _, computed, _⟩ :=
      Tcp.sent_eq_some .littleEndian #v[10, 0, 0, 1] (ascii "80")
    show Comes _ _ _ (orOverflow (Tcp.sent .littleEndian _ _) >>= _)
    rw [computed]
    refine comes_call (-1) refused (comes_call 1 trivial (comes_call () trivial ?_))
    refine comes_call () trivial (comes_call () trivial ?_)
    refine comes_call 40 accepted (comes_call () trivial (comes_call () trivial ?_))
    exact ⟨[], _, .here, rfl⟩
  obtain ⟨trace, last, run, emitted⟩ := comes
  have sends := senders_send .littleEndian [ascii "tcp", ascii "host", ascii "80"]
  exact ⟨trace, last, run, emitted, (sends.1 2).passes trace last run⟩

end NetworkServices.RawSockets
