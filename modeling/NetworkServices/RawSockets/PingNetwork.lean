import NetworkServices.RawSockets.PingProperties
import Mathlib.Logic.Relation

/-! Both processes of `ping.cpp` on a network that loses, repeats and reorders what it carries,
and whose other traffic comes in on the same socket. -/

set_option autoImplicit false

namespace NetworkServices.RawSockets.Ping

/-- The answer to an echo request by the rules of ICMP: the type is exchanged, and the checksum
computed again. -/
structure Answers (request reply : List UInt8) : Prop where
  type : reply.take 2 = [0, 0]
  rest : reply.drop 4 = request.drop 4
  verifies : ∀ receiver, internetChecksum receiver reply = some 0

/-- There is an answer to every echo message of whole words. -/
theorem EchoMessage.exists_answer {type : UInt8} {id sequence : UInt16} {data request : List UInt8}
    (echo : EchoMessage type id sequence data request) (aligned : Even data.length)
    (fits : data.length ≤ 65527) : ∃ reply, Answers request reply := by
  obtain ⟨_, _, layout⟩ := echo.layout
  obtain ⟨rest, behind⟩ : ∃ rest, rest = ByteOrder.bytes .bigEndian id ++
    (ByteOrder.bytes .bigEndian sequence ++ data) := ⟨_, rfl⟩
  have length : rest.length = data.length + 4 := by
    rw [behind, List.length_append, List.length_append, ByteOrder.bytes_length,
      ByteOrder.bytes_length]
    omega
  have whole : (([0, 0] : List UInt8) ++ (ByteOrder.bytes .bigEndian 0 ++ rest)).length ≤ 65535 := by
    simp [length]
    omega
  obtain ⟨sum, computed⟩ : ∃ sum, internetChecksum .bigEndian
      ([0, 0] ++ (ByteOrder.bytes .bigEndian 0 ++ rest)) = some sum :=
    ⟨_, internetChecksum_eq_some .bigEndian whole⟩
  refine ⟨[0, 0] ++ (ByteOrder.bytes .bigEndian sum ++ rest), rfl, ?_, ?_⟩
  · rw [layout, ← behind]
    rfl
  · intro receiver
    refine internetChecksum_sealed ?_ (by decide) ?_ computed receiver
    · simp [length]
      omega
    · rw [length]
      exact aligned.add (by decide)

theorem EchoMessage.answered {type : UInt8} {id sequence : UInt16} {data request reply : List UInt8}
    (echo : EchoMessage type id sequence data request) (answers : Answers request reply) :
    EchoMessage 0 id sequence data reply := by
  obtain ⟨_, _, layout⟩ := echo.layout
  have rest := answers.rest
  rw [layout] at rest
  have behind : reply.drop 4 = ByteOrder.bytes .bigEndian id ++
      (ByteOrder.bytes .bigEndian sequence ++ data) := rest
  refine ⟨?_, answers.verifies⟩
  match reply, answers.type, behind with
  | zero :: zero' :: first :: second :: rest, type, behind =>
      rw [List.take_succ_cons, List.take_succ_cons, List.take_zero, List.cons.injEq,
        List.cons.injEq] at type
      obtain ⟨rfl, rfl, _⟩ := type
      exact ⟨first, second, congrArg ([0, 0, first, second] ++ ·) behind⟩

/-- The packets given to `sendto`, those that wait at the socket of the receiver, and what the
receiver holds and has shown. -/
structure Network where
  sent : List (List UInt8)
  arrivals : List (List UInt8)
  datagram : Buffer 40
  shown : List Shown

def Network.start (datagram : Buffer 40) : Network := ⟨[], [], datagram, []⟩

section Steps

variable (order : ByteOrder) (packets : List (List UInt8)) (target : InAddr)
  (foreign : List UInt8 → Prop)

/-- What the sender, the network and the receiver may do next. -/
inductive Step (network : Network) : Network → Prop where
  | sendto {packet : List UInt8} : packets[network.sent.length]? = some packet →
      Step network { network with sent := network.sent ++ [packet] }
  | answer {request reply : List UInt8} {header : Ip} : request ∈ network.sent →
      Answers request reply → header.ipHl = 5 → header.ipSrc = target →
      Step network
        { network with arrivals := network.arrivals ++ [header.bytes .bigEndian ++ reply] }
  | other {packet : List UInt8} : foreign packet →
      Step network { network with arrivals := network.arrivals ++ [packet] }
  | lose {front back : List (List UInt8)} {packet : List UInt8} :
      network.arrivals = front ++ packet :: back →
      Step network { network with arrivals := front ++ back }
  | recvfrom {packet : List UInt8} {rest : List (List UInt8)} :
      network.shown.length < 4 → network.arrivals = packet :: rest →
      Step network
        { network with
          arrivals := rest
          datagram := recvfrom network.datagram (some packet)
          shown := network.shown ++
            [Ping.shown order (recvfrom network.datagram (some packet)).bytes] }
  | fail : network.shown.length < 4 →
      Step network
        { network with
          datagram := recvfrom network.datagram none
          shown := network.shown ++ [Ping.shown order (recvfrom network.datagram none).bytes] }

/-- A packet that answers one of those sent. -/
def Genuine (sent : List (List UInt8)) (packet : List UInt8) : Prop :=
  ∃ (header : Ip) (request reply : List UInt8), request ∈ sent ∧ Answers request reply ∧
    header.ipHl = 5 ∧ header.ipSrc = target ∧ packet = header.bytes .bigEndian ++ reply

/-- What the receiver shows of the contents of its datagram is what it shows of some packet that
has come in, or of the memory it has started with. -/
def Shows (datagram : Buffer 40) (sent : List (List UInt8)) (block : Shown) : Prop :=
  block = shown order datagram.bytes ∨
    ∃ (held : Buffer 40) (packet : List UInt8), (Genuine target sent packet ∨ foreign packet) ∧
      block = shown order (held.receive packet).bytes

structure Sound (datagram : Buffer 40) (network : Network) : Prop where
  sent : network.sent <+: packets
  arrivals : ∀ packet ∈ network.arrivals, Genuine target network.sent packet ∨ foreign packet
  held : Shows order target foreign datagram network.sent (shown order network.datagram.bytes)
  shown : ∀ block ∈ network.shown, Shows order target foreign datagram network.sent block
  few : network.shown.length ≤ 4
  loop : ∃ results, results.length = network.shown.length ∧
    network.datagram = results.foldl recvfrom datagram ∧
    network.shown = showLoop order results.length datagram results

variable {order packets target foreign} {datagram : Buffer 40} {network next : Network}
  {sent : List (List UInt8)}

theorem Genuine.more {packet : List UInt8} (genuine : Genuine target sent packet)
    (later : List (List UInt8)) : Genuine target (sent ++ later) packet := by
  obtain ⟨header, request, reply, member, answers⟩ := genuine
  exact ⟨header, request, reply, List.mem_append_left _ member, answers⟩

theorem Shows.more {block : Shown} (shows : Shows order target foreign datagram sent block)
    (later : List (List UInt8)) : Shows order target foreign datagram (sent ++ later) block := by
  rcases shows with initial | ⟨held, packet, source, same⟩
  · exact .inl initial
  · exact .inr ⟨held, packet, source.imp_left fun genuine => genuine.more later, same⟩

theorem sound_start (datagram : Buffer 40) :
    Sound order packets target foreign datagram (.start datagram) :=
  ⟨List.nil_prefix, by simp [Network.start], .inl rfl, by simp [Network.start], Nat.zero_le _,
    [], rfl, rfl, rfl⟩

/-- One more pass of the loop, at its end. -/
theorem showLoop_append (order : ByteOrder) (datagram : Buffer 40)
    (results : List (Option (List UInt8))) (result : Option (List UInt8)) :
    showLoop order (results ++ [result]).length datagram (results ++ [result]) =
      showLoop order results.length datagram results ++
        [Ping.shown order (recvfrom (results.foldl recvfrom datagram) result).bytes] := by
  induction results generalizing datagram with
  | nil => rfl
  | cons first results ih =>
      exact congrArg (Ping.shown order (recvfrom datagram first).bytes :: ·) (ih _)

theorem Sound.pass (sound : Sound order packets target foreign datagram network)
    {result : Option (List UInt8)} (room : network.shown.length < 4)
    (shows : Shows order target foreign datagram network.sent
      (Ping.shown order (recvfrom network.datagram result).bytes))
    {rest : List (List UInt8)} (fewer : rest ⊆ network.arrivals) :
    Sound order packets target foreign datagram
      { network with
        arrivals := rest
        datagram := recvfrom network.datagram result
        shown := network.shown ++
          [Ping.shown order (recvfrom network.datagram result).bytes] } where
  sent := sound.sent
  arrivals packet member := sound.arrivals packet (fewer member)
  held := shows
  shown := by
    intro block member
    rcases List.mem_append.mp member with earlier | last
    · exact sound.shown block earlier
    · rw [List.mem_singleton.mp last]
      exact shows
  few := by
    rw [List.length_append]
    exact room
  loop := by
    obtain ⟨results, length, left, same⟩ := sound.loop
    refine ⟨results ++ [result], ?_, ?_, ?_⟩
    · rw [List.length_append, List.length_append, length]
      rfl
    · rw [List.foldl_append, left]
      rfl
    · rw [showLoop_append, same, left]

theorem Sound.arrive (sound : Sound order packets target foreign datagram network)
    {packet : List UInt8} (source : Genuine target network.sent packet ∨ foreign packet) :
    Sound order packets target foreign datagram
      { network with arrivals := network.arrivals ++ [packet] } where
  sent := sound.sent
  arrivals := by
    intro other member
    rcases List.mem_append.mp member with earlier | last
    · exact sound.arrivals other earlier
    · rw [List.mem_singleton.mp last]
      exact source
  held := sound.held
  shown := sound.shown
  few := sound.few
  loop := sound.loop

theorem Sound.step (sound : Sound order packets target foreign datagram network)
    (step : Step order packets target foreign network next) :
    Sound order packets target foreign datagram next := by
  cases step with
  | @sendto packet selected =>
      refine ⟨?_, ?_, sound.held.more _, ?_, sound.few, sound.loop⟩
      · obtain ⟨back, rfl⟩ := sound.sent
        rw [List.getElem?_append_right (Nat.le_refl _), Nat.sub_self] at selected
        cases back with
        | nil => cases selected
        | cons other back =>
            cases selected
            exact ⟨back, by rw [List.append_assoc]; rfl⟩
      · intro other member
        exact (sound.arrivals other member).imp_left fun genuine => genuine.more _
      · intro block member
        exact (sound.shown block member).more _
  | answer member answers plain source =>
      exact sound.arrive (.inl ⟨_, _, _, member, answers, plain, source, rfl⟩)
  | other source => exact sound.arrive (.inr source)
  | lose split =>
      refine ⟨sound.sent, ?_, sound.held, sound.shown, sound.few, sound.loop⟩
      intro packet member
      apply sound.arrivals
      rw [split]
      exact List.mem_append.mpr ((List.mem_append.mp member).imp_right (List.mem_cons_of_mem _))
  | @recvfrom packet rest room waiting =>
      have source := sound.arrivals packet (by rw [waiting]; exact List.mem_cons_self)
      refine sound.pass room (.inr ⟨network.datagram, packet, source, rfl⟩) ?_
      rw [waiting]
      exact List.subset_cons_self _ _
  | fail room =>
      refine sound.pass room ?_ (List.Subset.refl _)
      exact sound.held

/-- The steps of the receiver are the passes of its loop. -/
theorem Sound.shown_eq_childProcess
    (sound : Sound order packets target foreign datagram network)
    (ended : network.shown.length = 4) :
    ∃ results, results.length = 4 ∧ network.shown = childProcess order datagram results := by
  obtain ⟨results, length, -, same⟩ := sound.loop
  rw [ended] at length
  rw [length] at same
  exact ⟨results, length, same⟩

theorem sound_of_run
    (run : Relation.ReflTransGen (Step order packets target foreign) (.start datagram) network) :
    Sound order packets target foreign datagram network := by
  induction run with
  | refl => exact sound_start datagram
  | tail _ step ih => exact ih.step step

end Steps

/-!
## What is shown
-/

theorem htons_number (order : ByteOrder) {k : Nat} (inside : k < 4) :
    order.htons (UInt16.ofNat (1 + k)) = UInt16.ofNat (1 + k) ↔ order = .bigEndian := by
  cases order <;> interval_cases k <;> decide

/-- What is shown of the answer to request number `1 + k`. The number itself is shown by a host
that keeps its words in network order only. -/
structure ShowsReply (order : ByteOrder) (pid : Int32) (target : InAddr) (k : Nat)
    (block : Shown) : Prop where
  ipSrc : block.ipSrc = target
  ipHl : block.ipHl = 5
  type : block.type = 0
  code : block.code = 0
  id : block.id = order.htons pid.toUInt32.toUInt16
  sequence : block.sequence = order.htons (UInt16.ofNat (1 + k))
  number : block.sequence = UInt16.ofNat (1 + k) ↔ order = .bigEndian

section Shown

variable {order : ByteOrder} {pid : Int32} {draws : Nat → Nat → Draw} {sendto : Nat → Bool}
  {initial : Datagram} {packets : List (List UInt8)} {status : ExitStatus} {target : InAddr}
  {foreign : List UInt8 → Prop} {datagram : Buffer 40} {network : Network}

theorem Genuine.shows {sent : List (List UInt8)} {packet : List UInt8}
    (genuine : Genuine target sent packet)
    (requests : ∀ k (inside : k < sent.length), k < 4 ∧
      EchoMessage 8 pid.toUInt32.toUInt16 (UInt16.ofNat (1 + k)) (letters (draws (1 + k))) sent[k])
    (held : Buffer 40) :
    ∃ k < sent.length, ShowsReply order pid target k (shown order (held.receive packet).bytes) := by
  obtain ⟨header, request, reply, member, answers, plain, source, rfl⟩ := genuine
  obtain ⟨k, inside, rfl⟩ := List.mem_iff_getElem.mp member
  obtain ⟨few, echo⟩ := requests k inside
  have answered := echo.answered answers
  have block := answered.shown order header plain .bigEndian
  rw [← shown_receive order held (answered.length_le .bigEndian header)] at block
  refine ⟨k, inside, ?_⟩
  rw [block]
  exact ⟨source, rfl, rfl, rfl, rfl, rfl, htons_number order few⟩

/-- In every order of sending, losing, repeating and receiving, at most four blocks are shown, and
each of them shows the answer to a request that was already sent, or a packet of other origin, or
the memory that no packet has reached yet. -/
theorem shown_replies
    (sends : mainProcess order pid draws sendto initial = some (packets, status))
    (run : Relation.ReflTransGen (Step order packets target foreign) (.start datagram) network) :
    network.sent.length ≤ 4 ∧ network.shown.length ≤ 4 ∧
      ∀ block ∈ network.shown, block = shown order datagram.bytes ∨
        (∃ (held : Buffer 40) (packet : List UInt8), foreign packet ∧
          block = shown order (held.receive packet).bytes) ∨
        ∃ k < network.sent.length, ShowsReply order pid target k block := by
  have sound := sound_of_run run
  obtain ⟨all, status', same, length, -, messages⟩ :=
    sendLoop_sends order pid draws sendto 4 1 initial
  have split := sends.symm.trans same
  rw [Option.some.injEq, Prod.mk.injEq] at split
  obtain ⟨rfl, rfl⟩ := split
  have four : packets.length ≤ 4 := by
    rw [length]
    exact (List.takeWhile_prefix sendto).length_le
  have few : network.sent.length ≤ 4 := sound.sent.length_le.trans four
  have requests : ∀ k (inside : k < network.sent.length), k < 4 ∧
      EchoMessage 8 pid.toUInt32.toUInt16 (UInt16.ofNat (1 + k)) (letters (draws (1 + k)))
        network.sent[k] := by
    intro k inside
    refine ⟨Nat.lt_of_lt_of_le inside few, ?_⟩
    rw [sound.sent.getElem inside]
    exact messages k _
  refine ⟨few, sound.few, ?_⟩
  intro block member
  rcases sound.shown block member with untouched | ⟨held, packet, genuine | other, rfl⟩
  · exact .inl untouched
  · exact .inr (.inr (genuine.shows requests held))
  · exact .inr (.inl ⟨held, packet, other, rfl⟩)

end Shown

def emptyDatagram : Datagram := ⟨⟨0, 0, 0, 0, 0⟩, .zeroed dataSize⟩

/-- A run in which the first request is answered and the answer shown. -/
theorem shown_replies_first :
    ∃ (packets : List (List UInt8)) (network : Network),
      mainProcess .littleEndian 4660 (fun _ _ => ⟨65, by decide⟩) (fun _ => true)
        emptyDatagram = some (packets, .success) ∧
      network.shown.length = 1 ∧
      network.sent.length ≤ 4 ∧ network.shown.length ≤ 4 ∧
      ∀ block ∈ network.shown, block = shown .littleEndian (Buffer.zeroed 40).bytes ∨
        (∃ (held : Buffer 40) (packet : List UInt8), False ∧
          block = shown .littleEndian (held.receive packet).bytes) ∨
        ∃ k < network.sent.length,
          ShowsReply .littleEndian 4660 #v[192, 168, 0, 1] k block := by
  obtain ⟨packets, status, sends, length, success, messages⟩ :=
    sendLoop_sends .littleEndian 4660 (fun _ _ => ⟨65, by decide⟩) (fun _ => true) 4 1 emptyDatagram
  obtain rfl : status = .success := success.mpr fun _ _ => rfl
  have inside : 0 < packets.length := by
    rw [length]
    decide
  obtain ⟨reply, answers⟩ := (messages 0 inside).exists_answer
    (by rw [letters_length]; decide) (by rw [letters_length]; decide)
  have sent : Step .littleEndian packets #v[192, 168, 0, 1] (fun _ => False)
      (.start (.zeroed 40)) ⟨[packets[0]], [], .zeroed 40, []⟩ :=
    .sendto (List.getElem?_eq_getElem inside)
  have answered : Step .littleEndian packets #v[192, 168, 0, 1] (fun _ => False)
      ⟨[packets[0]], [], .zeroed 40, []⟩
      ⟨[packets[0]],
        [Ip.bytes .bigEndian { ipHl := 5, ipSrc := #v[192, 168, 0, 1] } ++ reply], .zeroed 40, []⟩ :=
    .answer List.mem_cons_self answers rfl rfl
  have run := ((Relation.ReflTransGen.single sent).tail answered).tail
    (.recvfrom (Nat.zero_lt_succ 3) rfl)
  exact ⟨packets, _, sends, rfl, shown_replies sends run⟩

end NetworkServices.RawSockets.Ping
