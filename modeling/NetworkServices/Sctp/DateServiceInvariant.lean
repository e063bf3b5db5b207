import NetworkServices.Sctp.DateServiceTexts
import Mathlib.Logic.Relation

/-! What holds in every state of the date service: for each association that the server has accepted,
what is printed, under way, still to be sent or lost makes up the two lines of one reading. -/

set_option autoImplicit false

namespace NetworkServices.Sctp.DateService

variable {ι : Type} [DecidableEq ι]

/-- The lines that the server has still to send to a client. -/
def World.pending (world : World ι) (c : ι) : List (UInt16 × CString) :=
  match world.server with
  | .sendingData connfd tm =>
      if world.table.lookup connfd = some (.association c) then answers tm else []
  | .sendingCzas connfd tm =>
      if world.table.lookup connfd = some (.association c) then [(1, czasText tm)] else []
  | _ => []

/-- The clients that have connected. -/
def World.members (world : World ι) : List ι :=
  world.queue ++ world.accepted.map Accepted.client

def Client.Connected (client : Client) : Prop :=
  (client.control = .receiving ∧ client.i < 2) ∨ (client.control = .closed ∧ client.i = 2)

/-- Each line for an accepted client is printed, on its way, still to be sent, or missed for good,
and a line is missed only when the association is lost. -/
structure Balanced (world : World ι) (c : ι) (tm : Tm) : Prop where
  lines : ∃ missed, ((world.client c).printed ++ ((world.transit c).map Message.line ++
    (world.pending c ++ missed))).Perm (answers tm) ∧ (world.lost c = false → missed = [])
  passes : world.lost c = false → (world.client c).i = (world.client c).printed.length

/-- A client that was not accepted. -/
structure Idle (world : World ι) (c : ι) : Prop where
  printed : (world.client c).printed = []
  transit : world.transit c = []
  passes : world.lost c = false → world.server ≠ .exited → (world.client c).i = 0

structure Invariant (limit : Nat) (table : DescriptorTable (OpenFile ι)) (world : World ι) :
    Prop where
  distinct : world.members.Nodup
  connected : ∀ c ∈ world.members, (world.client c).Connected
  joined : ∀ c, (world.client c).control = .receiving → c ∈ world.members
  fresh : ∀ c, (world.client c).control = .connecting → (world.client c).i = 0 ∧ c ∉ world.members
  balanced : ∀ entry ∈ world.accepted, Balanced world entry.client entry.tm
  idle : ∀ c, c ∉ world.accepted.map Accepted.client → Idle world c
  kept : ∀ entry ∈ world.accepted,
    world.table.lookup entry.connfd = some (.association entry.client)
  serves : ∀ connfd tm,
    world.server = .sendingData connfd tm ∨ world.server = .sendingCzas connfd tm →
      ∃ entry ∈ world.accepted, entry.connfd = connfd ∧ entry.tm = tm
  openCount : world.table.openCount = table.openCount + world.accepted.length
  exits : world.server = .exited → limit ≤ world.table.lowestFree ∨ ∃ c, world.lost c = true

theorem invariant_start (limit : Nat) (table : DescriptorTable (OpenFile ι)) :
    Invariant limit table (.start table) where
  distinct := .nil
  connected := nofun
  joined := nofun
  fresh := fun _ _ => ⟨rfl, List.not_mem_nil⟩
  balanced := nofun
  idle := fun _ _ => ⟨rfl, rfl, fun _ _ => rfl⟩
  kept := nofun
  serves := by
    rintro connfd tm (sending | sending) <;> cases sending
  openCount := rfl
  exits := nofun

section Steps

variable {limit : Nat} {table : DescriptorTable (OpenFile ι)} {world : World ι} {c : ι}

/-- A step of one client or of its association. -/
theorem Invariant.onClient (invariant : Invariant limit table world) (client : Client)
    (transit : List Message) (lost : Bool)
    (connected : c ∈ world.members → client.Connected)
    (joined : client.control = .receiving → c ∈ world.members)
    (fresh : client.control = .connecting → client.i = 0 ∧ c ∉ world.members)
    (balanced : ∀ tm, Balanced world c tm → (∃ missed, (client.printed ++
      (transit.map Message.line ++ (world.pending c ++ missed))).Perm (answers tm) ∧
        (lost = false → missed = [])) ∧ (lost = false → client.i = client.printed.length))
    (idle : Idle world c → client.printed = [] ∧ transit = [] ∧
      (lost = false → world.server ≠ .exited → client.i = 0))
    (gone : world.lost c = true → lost = true) :
    Invariant limit table { world with
      client := Function.update world.client c client
      transit := Function.update world.transit c transit
      lost := Function.update world.lost c lost } where
  distinct := invariant.distinct
  connected := by
    intro d member
    rcases eq_or_ne d c with rfl | other
    · simp only [Function.update_self]
      exact connected member
    · simp only [Function.update_of_ne other]
      exact invariant.connected d member
  joined := by
    intro d receiving
    rcases eq_or_ne d c with rfl | other
    · simp only [Function.update_self] at receiving
      exact joined receiving
    · simp only [Function.update_of_ne other] at receiving
      exact invariant.joined d receiving
  fresh := by
    intro d connecting
    rcases eq_or_ne d c with rfl | other
    · simp only [Function.update_self] at connecting ⊢
      exact fresh connecting
    · simp only [Function.update_of_ne other] at connecting ⊢
      exact invariant.fresh d connecting
  balanced := by
    intro entry member
    have before := invariant.balanced entry member
    rcases eq_or_ne entry.client c with same | other
    · rw [same] at before ⊢
      obtain ⟨lines, passes⟩ := balanced entry.tm before
      refine ⟨?_, ?_⟩
      · simp only [Function.update_self]
        exact lines
      · simp only [Function.update_self]
        exact passes
    · refine ⟨?_, ?_⟩
      · simp only [Function.update_of_ne other]
        exact before.lines
      · simp only [Function.update_of_ne other]
        exact before.passes
  idle := by
    intro d outside
    have before := invariant.idle d outside
    rcases eq_or_ne d c with rfl | other
    · obtain ⟨printed, transit, passes⟩ := idle before
      refine ⟨?_, ?_, ?_⟩
      · simp only [Function.update_self]
        exact printed
      · simp only [Function.update_self]
        exact transit
      · simp only [Function.update_self]
        exact passes
    · refine ⟨?_, ?_, ?_⟩
      · simp only [Function.update_of_ne other]
        exact before.printed
      · simp only [Function.update_of_ne other]
        exact before.transit
      · simp only [Function.update_of_ne other]
        exact before.passes
  kept := invariant.kept
  serves := invariant.serves
  openCount := invariant.openCount
  exits := by
    intro exited
    rcases invariant.exits exited with full | ⟨d, down⟩
    · exact .inl full
    · refine .inr ⟨d, ?_⟩
      rcases eq_or_ne d c with rfl | other
      · simp only [Function.update_self]
        exact gone down
      · simp only [Function.update_of_ne other]
        exact down

theorem mem_answers {line : UInt16 × CString} {tm : Tm} (member : line ∈ answers tm) :
    line.2.length ≤ 50 ∧ line.2 ≠ [] ∧ 0 ∉ line.2 := by
  simp only [answers, List.mem_cons, List.not_mem_nil, or_false] at member
  rcases member with rfl | rfl
  · exact ⟨dataText_length tm, by simp [dataText, ascii], dataText_nulFree tm⟩
  · exact ⟨czasText_length tm, by simp [czasText, ascii], czasText_nulFree tm⟩

theorem Client.Connected.pass {client : Client} (connected : client.Connected)
    (receiving : client.control = .receiving) : client.pass.Connected := by
  rcases connected with ⟨_, below⟩ | ⟨closed, _⟩
  · rw [Client.pass, Client.Connected]
    by_cases more : client.i + 1 < 2
    · exact .inl ⟨if_pos more, more⟩
    · exact .inr ⟨if_neg more, by simp only; omega⟩
  · rw [closed] at receiving
    cases receiving

theorem Client.pass_not_connecting (client : Client) : client.pass.control ≠ .connecting := by
  rw [Client.pass]
  dsimp only
  split <;> nofun

theorem Invariant.exists_accepted (invariant : Invariant limit table world)
    (waiting : world.transit c ≠ []) : ∃ entry ∈ world.accepted, entry.client = c := by
  by_contra missing
  refine waiting (invariant.idle c ?_).transit
  intro member
  exact missing (List.mem_map.mp member)

theorem Invariant.receive (invariant : Invariant limit table world) {message : Message}
    {rest : List Message} (beyond : List UInt8)
    (receiving : (world.client c).control = .receiving)
    (takes : Takes Message.sinfo_stream (world.transit c) message rest) :
    Invariant limit table { world with
      client := Function.update world.client c ((world.client c).recvmsg message beyond)
      transit := Function.update world.transit c rest } := by
  generalize channel : world.transit c = transit at takes
  obtain ⟨before, after, _, _⟩ := takes
  have waiting : world.transit c ≠ [] := by simp [channel]
  obtain ⟨entry, member, rfl⟩ := invariant.exists_accepted waiting
  obtain ⟨missed, lines, _⟩ := (invariant.balanced entry member).lines
  have sent : message.line ∈ answers entry.tm := by
    refine lines.subset ?_
    simp [channel]
  obtain ⟨short, nonempty, nulFree⟩ := mem_answers sent
  rw [recvmsg_printed short nonempty nulFree]
  have inside := invariant.joined _ receiving
  have stepped := (invariant.connected _ inside).pass receiving
  have updated := invariant.onClient
    { (world.client entry.client).pass with
      printed := (world.client entry.client).printed ++ [message.line] }
    (before ++ after) (world.lost entry.client) (fun _ => stepped) (fun _ => inside)
    (fun connecting => absurd connecting (Client.pass_not_connecting _))
    ?_ ?_ id
  · simpa only [Function.update_eq_self] using updated
  · intro tm balanced
    obtain ⟨missed, lines, whole⟩ := balanced.lines
    refine ⟨⟨missed, ?_, whole⟩, ?_⟩
    · refine List.Perm.trans ?_ lines
      rw [channel]
      simp only [List.map_append, List.map_cons, List.append_assoc, List.cons_append,
        List.nil_append]
      exact List.perm_middle.symm.append_left _
    · intro up
      rw [List.length_append, ← balanced.passes up]
      rfl
  · intro idle
    exact absurd idle.transit waiting

theorem Invariant.receiveFailed (invariant : Invariant limit table world)
    (receiving : (world.client c).control = .receiving)
    (ended : world.lost c = true ∨ world.server = .exited ∧ world.transit c = []) :
    Invariant limit table { world with
      client := Function.update world.client c (world.client c).pass } := by
  have inside := invariant.joined _ receiving
  have connected := invariant.connected _ inside
  have updated := invariant.onClient (world.client c).pass (world.transit c) (world.lost c)
    (fun _ => connected.pass receiving) (fun _ => inside)
    (fun connecting => absurd connecting (Client.pass_not_connecting _)) ?_ ?_ id
  · simpa only [Function.update_eq_self] using updated
  · intro tm balanced
    refine ⟨balanced.lines, ?_⟩
    intro up
    -- A client that has all its lines does not ask again.
    exfalso
    rcases ended with down | ⟨exited, empty⟩
    · rw [up] at down
      cases down
    · obtain ⟨missed, lines, whole⟩ := balanced.lines
      have pending : world.pending c = [] := by rw [World.pending, exited]
      have length := lines.length_eq
      rw [empty, pending, whole up] at length
      have passes := balanced.passes up
      rcases connected with ⟨_, below⟩ | ⟨closed, _⟩
      · simp [answers] at length
        omega
      · rw [closed] at receiving
        cases receiving
  · intro idle
    refine ⟨idle.printed, idle.transit, ?_⟩
    intro up running
    rcases ended with down | ⟨exited, _⟩
    · rw [up] at down
      cases down
    · exact absurd exited running

theorem Invariant.lose (invariant : Invariant limit table world) :
    Invariant limit table { world with
      transit := Function.update world.transit c []
      lost := Function.update world.lost c true } := by
  have updated := invariant.onClient (world.client c) [] true (invariant.connected c)
    (invariant.joined c) (invariant.fresh c) ?_ ?_ fun _ => rfl
  · simpa only [Function.update_eq_self] using updated
  · intro tm balanced
    obtain ⟨missed, lines, _⟩ := balanced.lines
    refine ⟨⟨(world.transit c).map Message.line ++ missed, ?_, nofun⟩, nofun⟩
    refine List.Perm.trans (List.Perm.append_left _ ?_) lines
    rw [List.map_nil, List.nil_append]
    exact List.perm_append_comm_assoc _ _ _
  · intro idle
    exact ⟨idle.printed, rfl, nofun⟩

theorem Invariant.connectFailed (invariant : Invariant limit table world)
    (connecting : (world.client c).control = .connecting) :
    Invariant limit table { world with
      client := Function.update world.client c { world.client c with control := .closed } } := by
  obtain ⟨_, outside⟩ := invariant.fresh c connecting
  have updated := invariant.onClient { world.client c with control := .closed } (world.transit c)
    (world.lost c) (fun member => absurd member outside) nofun nofun
    (fun _ balanced => ⟨balanced.lines, balanced.passes⟩)
    (fun idle => ⟨idle.printed, idle.transit, idle.passes⟩) id
  simpa only [Function.update_eq_self] using updated

theorem Invariant.connect (invariant : Invariant limit table world) (s_status : Status)
    (connecting : (world.client c).control = .connecting) :
    Invariant limit table { world with
      client := Function.update world.client c
        { world.client c with control := .receiving, s_status := some s_status }
      queue := world.queue ++ [c] } := by
  obtain ⟨first, outside⟩ := invariant.fresh c connecting
  have joins : ((world.queue ++ [c]) ++ world.accepted.map Accepted.client).Perm
      (c :: world.members) := by
    rw [List.append_assoc]
    exact List.perm_middle
  have unaccepted : c ∉ world.accepted.map Accepted.client := by
    intro member
    exact outside (List.mem_append_right _ member)
  refine { invariant with
    distinct := joins.nodup_iff.mpr (List.nodup_cons.mpr ⟨outside, invariant.distinct⟩)
    connected := ?_, joined := ?_, fresh := ?_, balanced := ?_, idle := ?_ }
  · intro d member
    rcases eq_or_ne d c with rfl | other
    · simp only [Function.update_self]
      exact .inl ⟨rfl, first ▸ Nat.two_pos⟩
    · simp only [Function.update_of_ne other]
      exact invariant.connected d (List.mem_of_ne_of_mem other (joins.mem_iff.mp member))
  · intro d receiving
    rcases eq_or_ne d c with rfl | other
    · exact joins.mem_iff.mpr (.head _)
    · simp only [Function.update_of_ne other] at receiving
      exact joins.mem_iff.mpr (.tail _ (invariant.joined d receiving))
  · intro d waiting
    rcases eq_or_ne d c with rfl | other
    · simp only [Function.update_self] at waiting
      cases waiting
    · simp only [Function.update_of_ne other] at waiting ⊢
      obtain ⟨first, outside⟩ := invariant.fresh d waiting
      exact ⟨first, fun member => outside (List.mem_of_ne_of_mem other (joins.mem_iff.mp member))⟩
  · intro entry member
    have other : entry.client ≠ c := by
      rintro rfl
      exact unaccepted (List.mem_map_of_mem member)
    have before := invariant.balanced entry member
    refine ⟨?_, ?_⟩
    · simp only [Function.update_of_ne other]
      exact before.lines
    · simp only [Function.update_of_ne other]
      exact before.passes
  · intro d outside
    have before := invariant.idle d outside
    rcases eq_or_ne d c with rfl | other
    · refine ⟨?_, before.transit, ?_⟩
      · simp only [Function.update_self]
        exact before.printed
      · simp only [Function.update_self]
        exact before.passes
    · refine ⟨?_, before.transit, ?_⟩
      · simp only [Function.update_of_ne other]
        exact before.printed
      · simp only [Function.update_of_ne other]
        exact before.passes

/-- The server sends the first of the lines that it has still to send to a client. -/
theorem Invariant.send (invariant : Invariant limit table world) {message : Message}
    {server : Server} (left : List (UInt16 × CString))
    (accepted : ∃ entry ∈ world.accepted, entry.client = c)
    (pending : ∀ d, world.pending d = if d = c then message.line :: left else [])
    (after : ∀ d, { world with server }.pending d = if d = c then left else [])
    (serves : ∀ connfd tm, server = .sendingData connfd tm ∨ server = .sendingCzas connfd tm →
      ∃ entry ∈ world.accepted, entry.connfd = connfd ∧ entry.tm = tm)
    (runs : world.server ≠ .exited) (running : server ≠ .exited) :
    Invariant limit table { world with
      server
      transit := Function.update world.transit c (world.transit c ++ [message]) } := by
  refine { invariant with
    balanced := ?_, idle := ?_, serves := serves, exits := fun exited => absurd exited running }
  · intro entry member
    obtain ⟨missed, lines, whole⟩ := (invariant.balanced entry member).lines
    refine ⟨⟨missed, ?_, whole⟩, (invariant.balanced entry member).passes⟩
    have next := after entry.client
    have pending := pending entry.client
    rw [World.pending] at next
    rw [pending] at lines
    rw [World.pending]
    simp only [next]
    rcases eq_or_ne entry.client c with same | other
    · simp only [same, if_true] at lines ⊢
      simp only [Function.update_self, List.map_append, List.map_cons, List.map_nil,
        List.append_assoc, List.cons_append, List.nil_append]
      exact lines
    · simp only [other, if_false] at lines ⊢
      simp only [Function.update_of_ne other]
      exact lines
  · intro d outside
    have before := invariant.idle d outside
    have other : d ≠ c := by
      rintro rfl
      obtain ⟨entry, member, same⟩ := accepted
      exact outside (List.mem_map.mpr ⟨entry, member, same⟩)
    refine ⟨before.printed, ?_, fun up _ => before.passes up runs⟩
    simp only [Function.update_of_ne other]
    exact before.transit

/-- The server exits. What it has not sent is missed by a client that it has lost. -/
theorem Invariant.exit (invariant : Invariant limit table world)
    (cause : limit ≤ world.table.lowestFree ∨ ∃ c, world.lost c = true)
    (pending : ∀ d, world.lost d = false → world.pending d = []) :
    Invariant limit table { world with server := .exited } := by
  refine { invariant with
    balanced := ?_, idle := ?_, serves := ?_, exits := fun _ => cause }
  · intro entry member
    have before := invariant.balanced entry member
    obtain ⟨missed, lines, whole⟩ := before.lines
    refine ⟨⟨world.pending entry.client ++ missed, lines, ?_⟩, before.passes⟩
    intro up
    rw [pending _ up, whole up]
    rfl
  · intro d outside
    have before := invariant.idle d outside
    exact ⟨before.printed, before.transit, fun _ running => absurd rfl running⟩
  · rintro connfd tm (sending | sending) <;> cases sending

theorem Invariant.accept (invariant : Invariant limit table world) {rest : List ι} (tm : Tm)
    (accepting : world.server = .accepting) (first : world.queue = c :: rest) :
    Invariant limit table { world with
      server := .sendingData world.table.lowestFree tm
      table := (world.table.allocate (.association c)).2
      queue := rest
      accepted := world.accepted ++ [⟨c, world.table.lowestFree, tm⟩] } := by
  have moves : (rest ++ (world.accepted ++ [⟨c, world.table.lowestFree, tm⟩] :
      List (Accepted ι)).map Accepted.client).Perm world.members := by
    rw [World.members, first, List.map_append, ← List.append_assoc]
    exact List.perm_append_singleton c _
  have distinct : (c :: (rest ++ world.accepted.map Accepted.client)).Nodup := by
    have distinct := invariant.distinct
    rwa [World.members, first] at distinct
  have unaccepted : c ∉ world.accepted.map Accepted.client := by
    intro member
    exact (List.nodup_cons.mp distinct).1 (List.mem_append_right _ member)
  have elsewhere (entry : Accepted ι) (member : entry ∈ world.accepted) :
      entry.connfd ≠ world.table.lowestFree := by
    intro same
    have kept := invariant.kept entry member
    rw [same, world.table.lookup_lowestFree] at kept
    cases kept
  refine { distinct := moves.nodup_iff.mpr invariant.distinct, connected := ?_, joined := ?_,
           fresh := ?_, balanced := ?_, idle := ?_, kept := ?_, serves := ?_, openCount := ?_,
           exits := nofun }
  · intro d member
    exact invariant.connected d (moves.mem_iff.mp member)
  · intro d receiving
    exact moves.mem_iff.mpr (invariant.joined d receiving)
  · intro d connecting
    obtain ⟨first, outside⟩ := invariant.fresh d connecting
    exact ⟨first, mt moves.mem_iff.mp outside⟩
  · intro entry member
    rcases List.mem_append.mp member with earlier | last
    · obtain ⟨missed, lines, whole⟩ := (invariant.balanced entry earlier).lines
      have other : entry.client ≠ c := by
        rintro rfl
        exact unaccepted (List.mem_map_of_mem earlier)
      refine ⟨⟨missed, ?_, whole⟩, (invariant.balanced entry earlier).passes⟩
      rw [World.pending, accepting] at lines
      simp only [World.pending, DescriptorTable.lookup_allocate, Option.some.injEq,
        OpenFile.association.injEq, Ne.symm other, if_false]
      exact lines
    · obtain rfl := List.mem_singleton.mp last
      have idle := invariant.idle c unaccepted
      have running : world.server ≠ .exited := by
        rw [accepting]
        nofun
      refine ⟨⟨[], ?_, fun _ => rfl⟩, ?_⟩
      · simp only [World.pending, DescriptorTable.lookup_allocate, if_true, idle.printed,
          idle.transit]
        exact .refl _
      · intro up
        rw [idle.printed]
        exact idle.passes up running
  · intro d outside
    have before := invariant.idle d fun member => outside (by
      rw [List.map_append]
      exact List.mem_append_left _ member)
    have running : world.server ≠ .exited := by
      rw [accepting]
      nofun
    exact ⟨before.printed, before.transit, fun up _ => before.passes up running⟩
  · intro entry member
    rcases List.mem_append.mp member with earlier | last
    · rw [DescriptorTable.lookup_allocate_of_ne _ (elsewhere entry earlier)]
      exact invariant.kept entry earlier
    · obtain rfl := List.mem_singleton.mp last
      exact DescriptorTable.lookup_allocate _ _
  · rintro connfd tm' (sending | sending)
    · cases sending
      exact ⟨_, List.mem_append_right _ (.head _), rfl, rfl⟩
    · cases sending
  · rw [DescriptorTable.openCount_allocate, invariant.openCount, List.length_append]
    rfl

/-- Where the descriptor that is written to leads, the reading of the clock belongs. -/
theorem Invariant.target (invariant : Invariant limit table world) {connfd : Nat} {tm : Tm}
    (sending : world.server = .sendingData connfd tm ∨ world.server = .sendingCzas connfd tm) :
    ∃ entry ∈ world.accepted, entry.connfd = connfd ∧ entry.tm = tm ∧
      world.table.lookup connfd = some (.association entry.client) := by
  obtain ⟨entry, member, same, read⟩ := invariant.serves connfd tm sending
  have kept := invariant.kept entry member
  rw [same] at kept
  exact ⟨entry, member, same, read, kept⟩

theorem Invariant.sendData (invariant : Invariant limit table world) {connfd : Nat} {tm : Tm}
    (beyond : List UInt8) (sending : world.server = .sendingData connfd tm)
    (connected : world.table.lookup connfd = some (.association c)) :
    Invariant limit table { world with
      server := .sendingCzas connfd tm
      transit := Function.update world.transit c
        (world.transit c ++ [sendmsg 0 (dataText tm) beyond]) } := by
  obtain ⟨entry, member, same, read, kept⟩ := invariant.target (.inl sending)
  rw [connected] at kept
  cases kept
  have line := sendmsg_line (dataText_length tm) (dataText_nulFree tm) 0 beyond
  refine invariant.send [(1, czasText tm)] ⟨entry, member, rfl⟩ ?_ ?_ ?_ ?_ nofun
  · intro d
    simp only [World.pending, sending, connected, Option.some.injEq, OpenFile.association.injEq,
      line, answers, eq_comm]
  · intro d
    simp only [World.pending, connected, Option.some.injEq, OpenFile.association.injEq, eq_comm]
  · rintro fd tm' (again | again)
    · cases again
    · cases again
      exact ⟨entry, member, same, read⟩
  · rw [sending]
    intro ended
    cases ended

theorem Invariant.sendCzas (invariant : Invariant limit table world) {connfd : Nat} {tm : Tm}
    (beyond : List UInt8) (sending : world.server = .sendingCzas connfd tm)
    (connected : world.table.lookup connfd = some (.association c)) :
    Invariant limit table { world with
      server := .accepting
      transit := Function.update world.transit c
        (world.transit c ++ [sendmsg 1 (czasText tm) beyond]) } := by
  obtain ⟨entry, member, same, read, kept⟩ := invariant.target (.inr sending)
  rw [connected] at kept
  cases kept
  have line := sendmsg_line (czasText_length tm) (czasText_nulFree tm) 1 beyond
  refine invariant.send [] ⟨entry, member, rfl⟩ ?_ ?_ ?_ ?_ nofun
  · intro d
    simp only [World.pending, sending, connected, Option.some.injEq, OpenFile.association.injEq,
      line, eq_comm]
  · intro d
    simp only [World.pending, ite_self]
  · rintro fd tm' (again | again) <;> cases again
  · rw [sending]
    nofun

theorem Invariant.step {next : World ι} (invariant : Invariant limit table world)
    (step : Step limit world next) : Invariant limit table next := by
  cases step with
  | connect s_status connecting _ => exact invariant.connect s_status connecting
  | connectFailed connecting => exact invariant.connectFailed connecting
  | accept tm accepting first _ => exact invariant.accept tm accepting first
  | acceptFailed accepting cause =>
      refine invariant.exit ?_ ?_
      · rcases cause with full | ⟨c, _, down⟩
        · exact .inl full
        · exact .inr ⟨c, down⟩
      · intro d _
        rw [World.pending, accepting]
  | sendData beyond sending connected _ _ => exact invariant.sendData beyond sending connected
  | sendCzas beyond sending connected _ _ => exact invariant.sendCzas beyond sending connected
  | @sendFailed c connfd tm sending connected down =>
      refine invariant.exit (.inr ⟨c, down⟩) ?_
      intro d up
      have other : c ≠ d := by
        rintro rfl
        rw [down] at up
        cases up
      rcases sending with sending | sending
      · simp only [World.pending, sending, connected, Option.some.injEq,
          OpenFile.association.injEq, other, if_false]
      · simp only [World.pending, sending, connected, Option.some.injEq,
          OpenFile.association.injEq, other, if_false]
  | receive beyond receiving takes => exact invariant.receive beyond receiving takes
  | receiveFailed receiving ended => exact invariant.receiveFailed receiving ended
  | lose _ => exact invariant.lose

theorem Invariant.run {next : World ι} (invariant : Invariant limit table world)
    (run : Relation.ReflTransGen (Step limit) world next) : Invariant limit table next := by
  induction run with
  | refl => exact invariant
  | tail _ step ih => exact ih.step step

end Steps

end NetworkServices.Sctp.DateService
