import NetworkServices.Netfilter.CallbackProperties
import NetworkServices.Netfilter.Queuemod

/-! What becomes of the packets of the queue. Each one that is received gets one verdict, in the
order in which they arrive, but a message that does not fit into the buffer gets none and
stays in the kernel. -/

set_option autoImplicit false

namespace NetworkServices.Netfilter.Queuemod

/-- A packet in the queue of the kernel, whose message has a header and a payload. -/
structure Packet where
  id : UInt32
  message : Message
  payload : List UInt8
  identified : message.data.packet_hdr.map PacketHdr.packet_id = some id
  copied : message.data.payload = some payload
  short : payload.length ≤ 65535

/-- The queue. The packets that are delivered wait for a verdict. -/
structure World where
  coming : List Packet
  delivered : List Packet := []
  pending : List Packet := []
  accepted : List (UInt32 × List UInt8) := []
  /-- The verdicts that could not be sent. -/
  failed : List UInt32 := []
  opened : Bool := false
  created : Bool := false
  ready : Bool := false

/-- The packet that `callback` makes of one, as the kernel sends it on. -/
def rewritten (beyond : Nat → UInt8) (packet : Packet) : UInt32 × List UInt8 :=
  (packet.id, sentBack (verdict beyond packet.id packet.message.data))

def answered (failed : List UInt32) (packet : Packet) : Bool :=
  decide (packet.message.nlmsg_len ≤ BUF_SIZE) && !failed.contains packet.id

/-- The accounts of the packets in front, while others are in hand. -/
structure Accounted (beyond : Nat → UInt8) (front hand : List Packet) (world : World) : Prop where
  delivered : world.delivered = front ++ hand
  accepted : world.accepted = (front.filter (answered world.failed)).map (rewritten beyond)
  pending : world.pending = front.filter (fun packet => !answered world.failed packet) ++ hand
  distinct : ((world.delivered ++ world.coming).map Packet.id).Nodup
  refused : ∀ id ∈ world.failed, ∃ packet ∈ front, packet.id = id
  whole : ∀ packet ∈ front, packet.message.nlmsg_len ≤ BUF_SIZE → 29 ≤ packet.payload.length

/-- Every packet that was delivered has been accepted, in its turn and as it was rewritten, and
those still wait that did not fit or whose verdict could not be sent. -/
def Settled (beyond : Nat → UInt8) (world : World) : Prop :=
  Accounted beyond world.delivered [] world

def may (beyond : Nat → UInt8) (world : World) : Call → Prop
  | .nfq_open | .fprintf _ _ | .perror _ | .sleep _ => True
  | .nfq_unbind_pf | .nfq_bind_pf | .nfq_create_queue _ => world.opened = true
  | .nfq_set_mode _ => world.created = true
  | .recv => world.ready = true ∧ Settled beyond world
  | .if_indextoname ifindex => ifindex ≠ 0
  | .nfq_set_verdict id verdict data_len buf =>
      world.ready = true ∧ verdict = nfAccept ∧
        ∃ packet ∈ world.pending, packet.id = id ∧
          data_len.toNat = packet.payload.length ∧ buf.length = packet.payload.length
  | .nfq_destroy_queue => world.created = true
  | .nfq_close => world.opened = true ∧ world.created = false
  | .fault => ∃ front packet, Accounted beyond front [packet] world ∧ packet.payload.length < 29

/-- A datagram is cut to the size of the buffer. -/
def promise (world : World) : (request : Call) → Answer request → Prop
  | .recv, answer =>
      ∀ received ∈ answer, ∃ packet rest, world.coming = packet :: rest ∧
        received = (min packet.message.nlmsg_len BUF_SIZE, packet.message)
  | .nfq_open, _ | .nfq_unbind_pf, _ | .nfq_bind_pf, _ | .nfq_create_queue _, _
  | .nfq_set_mode _, _ | .if_indextoname _, _ | .nfq_set_verdict _ _ _ _, _ | .fprintf _ _, _
  | .perror _, _ | .sleep _, _ | .nfq_destroy_queue, _ | .nfq_close, _ | .fault, _ => True

def World.deliver (world : World) : World :=
  match world.coming with
  | [] => world
  | packet :: rest =>
      { world with
        coming := rest
        delivered := world.delivered ++ [packet]
        pending := world.pending ++ [packet] }

def after (world : World) : (request : Call) → Answer request → World
  | .nfq_open, answer => { world with opened := answer }
  | .nfq_create_queue _, answer => { world with created := answer }
  | .nfq_set_mode _, answer => { world with ready := decide (0 ≤ answer) }
  | .recv, answer => if answer.isSome then world.deliver else world
  | .nfq_set_verdict id _ _ buf, answer =>
      if answer < 0 then { world with failed := world.failed ++ [id] }
      else
        { world with
          pending := world.pending.filter (·.id ≠ id)
          accepted := world.accepted ++ [(id, buf)] }
  | .nfq_destroy_queue, _ => { world with created := false }
  | .nfq_close, _ => { world with opened := false }
  | .nfq_unbind_pf, _ | .nfq_bind_pf, _ | .if_indextoname _, _ | .fprintf _ _, _ | .perror _, _
  | .sleep _, _ | .fault, _ => world

def interface (beyond : Nat → UInt8) : Interface Call Answer World where
  may := may beyond
  promise := promise
  after := after

/-- A process that ends in the middle has at most one packet in hand. -/
inductive Exits (beyond : Nat → UInt8) (world : World) : ExitStatus → Prop where
  | success (settled : Settled beyond world) (closed : world.opened = false) :
      Exits beyond world .success
  | early (nothing : world.delivered = []) : Exits beyond world .failure
  | interrupted (front : List Packet) (packet : Packet)
      (accounted : Accounted beyond front [packet] world) : Exits beyond world .failure

/-!
## One packet
-/

section Packet

variable {beyond : Nat → UInt8} {front : List Packet} {packet : Packet} {world : World}

theorem Accounted.packet_fresh (accounted : Accounted beyond front [packet] world) :
    ∀ other ∈ front, other.id ≠ packet.id := by
  intro other member same
  have distinct := accounted.distinct
  rw [accounted.delivered, List.append_assoc, List.map_append, List.nodup_append] at distinct
  exact distinct.2.2 other.id (List.mem_map_of_mem member) packet.id (by simp) same

theorem Accounted.deliver (accounted : Accounted beyond front [] world) {rest : List Packet}
    (coming : world.coming = packet :: rest) :
    Accounted beyond front [packet] world.deliver := by
  obtain ⟨delivered, accepted, pending, distinct, refused, whole⟩ := accounted
  rw [World.deliver, coming]
  refine ⟨?_, accepted, ?_, ?_, refused, whole⟩
  · simp [delivered]
  · simp [pending]
  · simpa [coming] using distinct

theorem whole_append
    (whole : ∀ packet ∈ front, packet.message.nlmsg_len ≤ BUF_SIZE → 29 ≤ packet.payload.length)
    (body : 29 ≤ packet.payload.length) :
    ∀ other ∈ front ++ [packet], other.message.nlmsg_len ≤ BUF_SIZE →
      29 ≤ other.payload.length := by
  intro other member fits
  rcases List.mem_append.mp member with earlier | last
  · exact whole other earlier fits
  · rw [List.mem_singleton.mp last]
    exact body

/-- A message that was cut is not looked at. -/
theorem Accounted.skip (accounted : Accounted beyond front [packet] world)
    (long : BUF_SIZE < packet.message.nlmsg_len) :
    Accounted beyond (front ++ [packet]) [] world := by
  obtain ⟨delivered, accepted, pending, distinct, refused, whole⟩ := accounted
  have unanswered : answered world.failed packet = false := by
    simp [answered, Nat.not_le.mpr long]
  refine ⟨by simp [delivered], ?_, ?_, distinct, ?_, ?_⟩
  · rw [accepted, List.filter_append, List.filter_cons_of_neg (by simp [unanswered])]
    simp
  · rw [pending, List.filter_append, List.filter_cons_of_pos (by simp [unanswered])]
    simp
  · intro id member
    obtain ⟨other, earlier, same⟩ := refused id member
    exact ⟨other, List.mem_append_left _ earlier, same⟩
  · intro other member fits
    rcases List.mem_append.mp member with earlier | last
    · exact whole other earlier fits
    · rw [List.mem_singleton.mp last] at fits
      exact absurd fits (Nat.not_le.mpr long)

theorem Accounted.accept (accounted : Accounted beyond front [packet] world)
    (fits : packet.message.nlmsg_len ≤ BUF_SIZE) (body : 29 ≤ packet.payload.length) :
    Accounted beyond (front ++ [packet]) []
      { world with
        pending := world.pending.filter (·.id ≠ packet.id)
        accepted := world.accepted ++ [rewritten beyond packet] } := by
  have fresh := accounted.packet_fresh
  obtain ⟨delivered, accepted, pending, distinct, refused, whole⟩ := accounted
  have unrefused : packet.id ∉ world.failed := by
    intro member
    obtain ⟨other, earlier, same⟩ := refused _ member
    exact fresh other earlier same
  have yes : answered world.failed packet = true := by
    simp [answered, fits, unrefused]
  refine ⟨by simp [delivered], ?_, ?_, distinct, ?_, whole_append whole body⟩
  · simp [accepted, yes]
  · have kept : (front.filter fun other => !answered world.failed other).filter
        (·.id ≠ packet.id) = front.filter fun other => !answered world.failed other := by
      rw [List.filter_eq_self]
      intro other member
      exact decide_eq_true (fresh other (List.mem_of_mem_filter member))
    rw [pending, List.filter_append, kept]
    simp [yes]
  · intro id member
    obtain ⟨other, earlier, same⟩ := refused id member
    exact ⟨other, List.mem_append_left _ earlier, same⟩

theorem Accounted.fail (accounted : Accounted beyond front [packet] world)
    (body : 29 ≤ packet.payload.length) :
    Accounted beyond (front ++ [packet]) []
      { world with failed := world.failed ++ [packet.id] } := by
  have fresh := accounted.packet_fresh
  obtain ⟨delivered, accepted, pending, distinct, refused, whole⟩ := accounted
  have no : answered (world.failed ++ [packet.id]) packet = false := by
    simp [answered]
  have same : ∀ other ∈ front,
      answered (world.failed ++ [packet.id]) other = answered world.failed other := by
    intro other member
    simp [answered, fresh other member]
  have negated : ∀ other ∈ front,
      (!answered (world.failed ++ [packet.id]) other) = !answered world.failed other := by
    intro other member
    rw [same other member]
  refine ⟨by simp [delivered], ?_, ?_, distinct, ?_, whole_append whole body⟩
  · rw [accepted, List.filter_append, List.filter_congr same]
    simp [no]
  · rw [pending, List.filter_append, List.filter_congr negated]
    simp [no]
  · intro id member
    rcases List.mem_append.mp member with earlier | last
    · obtain ⟨other, before, same⟩ := refused id earlier
      exact ⟨other, List.mem_append_left _ before, same⟩
    · exact ⟨packet, List.mem_append_right _ (.head _), (List.mem_singleton.mp last).symm⟩

end Packet

/-!
## The program
-/

section Rules

variable {beyond : Nat → UInt8} {Result : Type} {ended : World → ExitStatus → Prop}
  {post : World → Result → Prop} {world : World}

theorem meets_ask {request : Call} {next : Answer request → Process Result}
    (allowed : may beyond world request)
    (later : ∀ answer, promise world request answer →
      Meets (interface beyond) ended post (after world request answer) (next answer)) :
    Meets (interface beyond) ended post world (Program.invoke request >>= next) :=
  meets_call.mpr ⟨allowed, later⟩

theorem meets_print {stream : Stream} {text : CString} {next : Unit → Process Result}
    (later : Meets (interface beyond) ended post world (next ())) :
    Meets (interface beyond) ended post world (fprintf stream text >>= next) :=
  meets_ask trivial fun _ _ => later

theorem meets_printDevice {label : CString} {ifi : UInt32} {next : Unit → Process Result}
    (stops : ended world .failure)
    (later : Meets (interface beyond) ended post world (next ())) :
    Meets (interface beyond) ended post world (printDevice label ifi >>= next) := by
  unfold printDevice
  split
  · next known =>
      refine meets_bind.mpr (meets_call.mpr ⟨known, fun answer _ => ?_⟩)
      cases answer with
      | none => exact meets_ask trivial fun _ _ => stops
      | some ifname => exact ⟨trivial, fun _ _ => later⟩
  · exact later

theorem meets_printHeader {packet_hdr : Option PacketHdr} {next : UInt32 → Process Result}
    (later : Meets (interface beyond) ended post world
      (next ((packet_hdr.map PacketHdr.packet_id).getD 0))) :
    Meets (interface beyond) ended post world (printHeader packet_hdr >>= next) := by
  cases packet_hdr with
  | none => exact later
  | some ph => exact meets_bind.mpr (meets_print (meets_print (meets_print later)))

theorem meets_printAddress {packet_hw : Option PacketHw} {next : Unit → Process Result}
    (later : Meets (interface beyond) ended post world (next ())) :
    Meets (interface beyond) ended post world (printAddress packet_hw >>= next) := by
  cases packet_hw with
  | none => exact later
  | some hwph => exact meets_print later

theorem meets_printLength {payload : Option (List UInt8)} {next : Unit → Process Result}
    (later : Meets (interface beyond) ended post world (next ())) :
    Meets (interface beyond) ended post world (printLength payload >>= next) := by
  cases payload with
  | none => exact later
  | some data => exact meets_print later

/-- What is printed of a packet changes nothing; the id is that of the header. -/
theorem meets_print_packet {tb : NfqData} {next : UInt32 → Process Result}
    (stops : ended world .failure)
    (later : Meets (interface beyond) ended post world
      (next ((tb.packet_hdr.map PacketHdr.packet_id).getD 0))) :
    Meets (interface beyond) ended post world (print_packet tb >>= next) := by
  unfold print_packet
  simp only [bind_assoc, pure_bind]
  refine meets_printHeader (meets_printAddress ?_)
  exact meets_printDevice stops (meets_printDevice stops (meets_printLength later))

end Rules

section Receive

variable {nfq_handle_packet : Handler} {beyond : Nat → UInt8} {front : List Packet}
  {packet : Packet} {world : World}

theorem verdict_dataLength (beyond : Nat → UInt8) (packet : Packet) :
    (verdict beyond packet.id packet.message.data).dataLength.toNat = packet.payload.length := by
  rw [verdict, payloadLength, packet.copied]
  exact callback_dataLength packet.id packet.short _

theorem runsOut_iff (packet : Packet) :
    runsOut packet.message.data = true ↔ packet.payload.length < 29 := by
  rw [runsOut, payloadLength, packet.copied, decide_eq_true_iff]
  change (packet.payload.length : Int) < 29 ↔ _
  omega

/-- The queue in front of `recv`. -/
structure Idle (beyond : Nat → UInt8) (world : World) : Prop where
  settled : Settled beyond world
  opened : world.opened = true
  created : world.created = true
  ready : world.ready = true

theorem Accounted.settled (accounted : Accounted beyond front [] world) : Settled beyond world := by
  have delivered := accounted.delivered
  rw [List.append_nil] at delivered
  rw [Settled, delivered]
  exact accounted

theorem meets_callback (accounted : Accounted beyond front [packet] world)
    (opened : world.opened = true) (created : world.created = true) (ready : world.ready = true)
    (fits : packet.message.nlmsg_len ≤ BUF_SIZE) :
    Meets (interface beyond) (Exits beyond) (fun world _ => Idle beyond world) world
      (callback beyond packet.message.data) := by
  refine meets_print_packet (.interrupted front packet accounted) (meets_print ?_)
  rw [packet.identified, Option.getD_some]
  by_cases out : runsOut packet.message.data = true
  · rw [if_pos out]
    exact meets_ask ⟨front, packet, accounted, (runsOut_iff packet).mp out⟩
      fun returned _ => Empty.elim returned
  · have body : 29 ≤ packet.payload.length := Nat.not_lt.mp (mt (runsOut_iff packet).mpr out)
    rw [if_neg out]
    refine meets_call.mpr ⟨⟨ready, rfl, packet, ?_, rfl, ?_, ?_⟩, fun answer _ => ?_⟩
    · rw [accounted.pending]
      exact List.mem_append_right _ (.head _)
    · exact verdict_dataLength beyond packet
    · rw [sentBack, slice_length]
      exact verdict_dataLength beyond packet
    · change Idle beyond (after world _ answer)
      rw [after]
      split
      · exact ⟨(accounted.fail body).settled, opened, created, ready⟩
      · exact ⟨(accounted.accept fits body).settled, opened, created, ready⟩

theorem meets_receive (handles : HandlesPackets nfq_handle_packet) (idle : Idle beyond world) :
    Meets (interface beyond) (Exits beyond)
      (fun world => Sum.elim (fun _ => Idle beyond world) fun _ => Idle beyond world)
      world (receive nfq_handle_packet beyond ()) := by
  obtain ⟨settled, opened, created, ready⟩ := idle
  refine meets_call.mpr ⟨⟨ready, settled⟩, fun answer delivered => ?_⟩
  cases answer with
  | none => exact ⟨settled, opened, created, ready⟩
  | some received =>
      obtain ⟨packet, rest, coming, rfl⟩ := delivered received rfl
      have accounted := Accounted.deliver settled coming
      have flags : world.deliver.opened = true ∧ world.deliver.created = true ∧
          world.deliver.ready = true := by
        rw [World.deliver, coming]
        exact ⟨opened, created, ready⟩
      have handled : Meets (interface beyond) (Exits beyond) (fun world _ => Idle beyond world)
          world.deliver
          (nfq_handle_packet (callback beyond) (min packet.message.nlmsg_len BUF_SIZE)
            packet.message) := by
        by_cases fits : packet.message.nlmsg_len ≤ BUF_SIZE
        · obtain ⟨result, handled⟩ := handles.whole (callback beyond) _ packet.message
            (Nat.le_min.mpr ⟨Nat.le_refl _, fits⟩)
          rw [handled]
          have called := meets_callback accounted flags.1 flags.2.1 flags.2.2 fits
          exact called.bind fun world err idle => idle
        · have long := Nat.not_le.mp fits
          obtain ⟨result, handled⟩ := handles.cut (callback beyond) _ packet.message
            (Nat.lt_of_le_of_lt (Nat.min_le_right _ BUF_SIZE) long)
          rw [handled]
          exact ⟨(accounted.skip long).settled, flags.1, flags.2.1, flags.2.2⟩
      exact meets_print (handled.bind fun world _ idle => meets_ask trivial fun _ _ => idle)

theorem meets_loop_receive (handles : HandlesPackets nfq_handle_packet)
    (idle : Idle beyond world) (passes : Nat) :
    Meets (interface beyond) (Exits beyond) (fun world _ => Idle beyond world) world
      (Program.loop (receive nfq_handle_packet beyond) passes ()) := by
  refine meets_loop (fun world _ => Idle beyond world) ?_ idle passes
  intro world _ idle
  exact meets_receive handles idle

end Receive

def World.start (packets : List Packet) : World := { coming := packets }

theorem meets_main {nfq_handle_packet : Handler} (handles : HandlesPackets nfq_handle_packet)
    {packets : List Packet} (distinct : (packets.map Packet.id).Nodup)
    (passes : Nat) (beyond : Nat → UInt8) :
    Meets (interface beyond) (Exits beyond) (fun _ _ => False) (.start packets)
      (main nfq_handle_packet passes beyond) := by
  have fail {world : World} {text : CString} (nothing : world.delivered = []) :
      Meets (interface beyond) (Exits beyond) (fun _ _ => False) world
        (fail text : Process Unit) :=
    meets_print (.early nothing)
  refine meets_ask trivial fun h _ => ?_
  cases h with
  | false => exact fail rfl
  | true =>
      refine meets_ask rfl fun rv _ => ?_
      split
      · exact fail rfl
      · refine meets_ask rfl fun rv _ => ?_
        split
        · exact fail rfl
        · refine meets_ask rfl fun qh _ => ?_
          cases qh with
          | false => exact fail rfl
          | true =>
              refine meets_ask rfl fun rv _ => ?_
              split
              · exact fail rfl
              · next accepted =>
                  have idle : Idle beyond
                      { coming := packets, opened := true, created := true,
                        ready := decide (0 ≤ rv) } := by
                    refine ⟨⟨rfl, rfl, rfl, distinct, nofun, nofun⟩, rfl, rfl, ?_⟩
                    exact decide_eq_true (Int32.not_lt.mp accepted)
                  refine meets_print (Meets.bind (meets_loop_receive handles idle passes) ?_)
                  intro world _ idle
                  refine meets_ask idle.created fun _ _ => ?_
                  refine meets_ask ⟨idle.opened, rfl⟩ fun _ _ => ?_
                  obtain ⟨delivered, answered, pending, ids, refused, whole⟩ := idle.settled
                  exact .success ⟨delivered, answered, pending, ids, refused, whole⟩ rfl

/-- For a library that hands the packets of whole messages to the callback: at every time of a run
the calls are those that the queue allows, so when the program waits for the next packet, and when
it ends well, every packet that fits into its buffer has been accepted once, in its turn and as it
was rewritten, unless its verdict could not be sent. It runs out of memory that is its own only in
the callback, for a packet without a body, and behind that one nothing is accepted. -/
theorem packets_settled {nfq_handle_packet : Handler} {packets : List Packet} {passes : Nat}
    {beyond : Nat → UInt8} {trace : List (Exchange Call Answer)} {last : World}
    {left : Process Unit} (handles : HandlesPackets nfq_handle_packet)
    (distinct : (packets.map Packet.id).Nodup)
    (run : Reaches (interface beyond) (.start packets) (main nfq_handle_packet passes beyond) trace
      last left) :
    (∀ request next, left = .call request next → may beyond last request) ∧
      (∀ next, left = .call .fault next → ∃ front packet, Accounted beyond front [packet] last ∧
        ¬ ∀ offset ∈ (verdict beyond packet.id packet.message.data).memory.touched,
          offset < packet.payload.length) ∧
      ∀ status, left = .exit status → Exits beyond last status := by
  have rest := (meets_main handles distinct passes beyond).reaches run
  refine ⟨?_, ?_, ?_⟩
  · rintro request next rfl
    exact rest.1
  · rintro next rfl
    obtain ⟨front, packet, accounted, bodiless⟩ := rest.1
    refine ⟨front, packet, accounted, ?_⟩
    rw [verdict, payloadLength, packet.copied]
    exact mt (callback_inside_iff packet.id packet.short _).mp (Nat.not_le.mpr bodiless)
  · rintro status rfl
    exact rest

/-- A library that hands over what was received as a whole. -/
def handlePacket : Handler := fun callback rv message =>
  if message.nlmsg_len ≤ rv then callback message.data else pure (-1)

theorem handlesPackets_handlePacket : HandlesPackets handlePacket where
  whole callback rv message fits := by
    refine ⟨id, ?_⟩
    rw [handlePacket, if_pos fits]
    exact (bind_pure _).symm
  cut callback rv message long := ⟨-1, if_neg (Nat.not_le.mpr long)⟩

/-- A queue whose calls succeed as long as packets come. -/
def succeeding (world : World) : (request : Call) → Option (Answer request)
  | .nfq_open | .nfq_create_queue _ => some true
  | .nfq_unbind_pf | .nfq_bind_pf | .nfq_set_mode _ | .nfq_set_verdict _ _ _ _ => some (0 : Int32)
  | .recv => some (world.coming.head?.map fun packet =>
      (min packet.message.nlmsg_len BUF_SIZE, packet.message))
  | .if_indextoname _ => some (some (ascii "eth0"))
  | .fprintf _ _ | .perror _ | .sleep _ | .nfq_destroy_queue | .nfq_close => some ()
  | .fault => none

theorem succeeding_honest (world : World) (request : Call) (answer : Answer request)
    (answered : succeeding world request = some answer) : promise world request answer := by
  cases request with
  | recv =>
      cases answered
      intro received member
      simp only [Option.mem_def, Option.map_eq_some_iff] at member
      obtain ⟨packet, first, rfl⟩ := member
      exact ⟨packet, world.coming.tail, List.eq_cons_of_mem_head? first, rfl⟩
  | _ => trivial

def echoPacket (id : UInt32) (nlmsg_len : Nat) : Packet where
  id
  message := ⟨nlmsg_len, some ⟨id, 0x0800, 3⟩, some ⟨6, .replicate 8 1⟩, 0, 2,
    some (List.replicate 84 7)⟩
  payload := List.replicate 84 7
  identified := rfl
  copied := rfl
  short := by decide

/-- The second of three packets is too long, and waits. -/
theorem packets_settled_long :
    Exits (fun _ => 0)
      ((interface fun _ => 0).follow succeeding 60
        (.start [echoPacket 1 200, echoPacket 2 5000, echoPacket 3 200])
        (main handlePacket 9 fun _ => 0)).2.1 .success :=
  (packets_settled handlesPackets_handlePacket (by decide)
    (Interface.reaches_follow succeeding_honest 60 _ _)).2.2 .success rfl

end NetworkServices.Netfilter.Queuemod
