import NetworkServices.RawSockets.SendersProperties

/-! The program `ping.cpp` computes what `mainProcess` and `childProcess` say: in the child the
packets and the way it exits, and in the parent what is shown of the packets it receives. -/

set_option autoImplicit false

namespace NetworkServices.RawSockets.Ping

variable {Address : Type}

/-- The duty here is only that no checksum overflows. -/
abbrev total (Address : Type) : Interface (Call Address) Answer (World Address) :=
  (kernel Address).guard (SendsOnly fun _ => True)

/-- The loop does not ask about the packets in front of its own. -/
theorem sendLoop_congr (order : ByteOrder) (pid : Int32) (draws : Nat → Nat → Draw)
    {sendto other : Nat → Bool} {passes i : Nat} (same : ∀ k, i ≤ k → sendto k = other k)
    (datagram : Datagram) :
    sendLoop order pid draws sendto passes i datagram =
      sendLoop order pid draws other passes i datagram := by
  induction passes generalizing i datagram with
  | zero => rfl
  | succ passes ih =>
      have later := fun filled => ih (fun k behind => same k (Nat.le_of_succ_le behind)) filled
      simp only [sendLoop, same i (Nat.le_refl i), later]

section Child

variable {order : ByteOrder} {pid : Int32} {draws : Nat → Nat → Draw} {passes i : Nat}
  {datagram filled : Datagram}

theorem sendLoop_refused {sendto : Nat → Bool}
    (done : fill order pid (draws i) i datagram = some filled) (refused : sendto i = false) :
    sendLoop order pid draws sendto (passes + 1) i datagram = some ([], .failure) := by
  simp only [sendLoop, done, refused, Option.bind_eq_bind, Option.bind_some]
  rfl

theorem sendLoop_sent {sendto : Nat → Bool} {packets : List (List UInt8)} {status : ExitStatus}
    (done : fill order pid (draws i) i datagram = some filled) (accepted : sendto i = true)
    (later : sendLoop order pid draws sendto passes (i + 1) filled = some (packets, status)) :
    sendLoop order pid draws sendto (passes + 1) i datagram =
      some (filled.bytes order :: packets, status) := by
  simp only [sendLoop, done, accepted, Option.bind_eq_bind, Option.bind_some, if_pos, later]
  rfl

/-- The test of the loop, for the results of `sendto` from the pass `i` on. -/
def accepts (results : List Int32) (i k : Nat) : Bool :=
  !decide (results.getD (k - i) 0 < 0)

theorem accepts_cons (retval : Int32) (results : List Int32) {i k : Nat} (behind : i + 1 ≤ k) :
    accepts (retval :: results) i k = accepts results (i + 1) k := by
  obtain ⟨more, rfl⟩ := Nat.exists_eq_add_of_le behind
  rw [accepts, accepts, Nat.add_sub_cancel_left, Nat.add_assoc, Nat.add_sub_cancel_left,
    Nat.add_comm 1 more, List.getD_cons_succ]

theorem accepts_self (retval : Int32) (results : List Int32) (i : Nat) :
    accepts (retval :: results) i i = !decide (retval < 0) := by
  rw [accepts, Nat.sub_self, List.getD_cons_zero]

/-- The packets and the exit of the loop are those of `sendLoop` for the results that `sendto` had,
and behind a refused packet it was not called again. -/
structure SentBy (order : ByteOrder) (draws : Nat → Nat → Draw) (passes i : Nat)
    (datagram : Datagram) (world last : World Address) (status : ExitStatus) : Prop where
  forked : last.forked = world.forked
  pid : last.pid = world.pid
  packets : ∃ results packets,
    last.calls.map Prod.snd = world.calls.map Prod.snd ++ results ∧
      sendLoop order world.pid draws (accepts results i) passes i datagram =
        some (packets, status) ∧
      last.sent.map (·.2.1) = world.sent.map (·.2.1) ++ packets ∧
      results.length = packets.length + if status = .success then 0 else 1

theorem sendRequests_sends (sockfd : Nat) (ai_addr : Address) (world : World Address)
    {post : World Address → Unit → Prop} :
    Meets (total Address) (SentBy order draws passes i datagram world) post world
      (sendRequests order draws sockfd ai_addr passes i datagram) := by
  induction passes generalizing world i datagram with
  | zero =>
      exact ⟨rfl, rfl, [], [], (List.append_nil _).symm, rfl, (List.append_nil _).symm, rfl⟩
  | succ passes ih =>
      refine ⟨⟨trivial, nofun⟩, fun pid promised => ?_⟩
      obtain rfl : pid = world.pid := promised
      obtain ⟨filled, done⟩ := fill_total order world.pid (draws i) i datagram
      show Meets _ _ _ world (orOverflow (fill order world.pid _ _ datagram) >>= _)
      rw [done]
      refine ⟨⟨trivial, nofun⟩, fun sent promised => ?_⟩
      by_cases failed : sent < 0
      · obtain rfl : sent = -1 := eq_neg_one_of_neg promised failed
        refine meets_quiet (fun _ _ => rfl) nofun trivial fun _ => ?_
        exact ⟨rfl, rfl, [-1], [], List.map_append,
          sendLoop_refused done (accepts_self (-1) [] i), (List.append_nil _).symm, rfl⟩
      · show Meets _ _ _ ((kernel Address).after world _ sent) (if sent < 0 then _ else _)
        rw [after_sendto failed, if_neg failed]
        refine (quiet_printf _).bind trivial (meets_quiet (fun _ _ => rfl) nofun trivial fun _ => ?_)
        refine (@ih (i + 1) filled _).mono ?_ fun _ _ holds => holds
        rintro last status ⟨forked, pid, results, packets, answered, looped, listed, count⟩
        have accepted : accepts (sent :: results) i i = true := by
          rw [accepts_self, decide_eq_false failed]
          rfl
        have rest : sendLoop order world.pid draws (accepts (sent :: results) i) passes (i + 1)
            filled = sendLoop order world.pid draws (accepts results (i + 1)) passes (i + 1) filled :=
          sendLoop_congr order world.pid draws (fun k behind => accepts_cons sent results behind)
            filled
        refine ⟨forked, pid, sent :: results, filled.bytes order :: packets, ?_,
          sendLoop_sent done accepted (rest.trans looped), ?_, ?_⟩
        · rw [answered, List.map_append, List.append_assoc]
          rfl
        · rw [listed, List.map_append, List.append_assoc]
          rfl
        · rw [List.length_cons, List.length_cons, count]
          omega

end Child

section Parent

/-- What is shown is what `showLoop` makes of the results of `recvfrom`. -/
structure ShownBy (order : ByteOrder) (passes : Nat) (datagram : Buffer 40)
    (world last : World Address) (status : ExitStatus) : Prop where
  forked : last.forked = world.forked
  success : status = .success
  results : ∃ results, results.length = passes ∧ last.received = world.received ++ results ∧
    last.shown = world.shown ++ showLoop order passes datagram results

theorem showReplies_shows (order : ByteOrder) (sockfd passes : Nat) (datagram : Buffer 40)
    (world : World Address) {post : World Address → Unit → Prop} :
    Meets (total Address) (ShownBy order passes datagram world) post world
      (showReplies order sockfd passes datagram) := by
  induction passes generalizing world datagram with
  | zero => exact ⟨rfl, rfl, [], rfl, (List.append_nil _).symm, (List.append_nil _).symm⟩
  | succ passes ih =>
      refine ⟨⟨trivial, nofun⟩, fun packet _ => ?_⟩
      refine ⟨⟨trivial, nofun⟩, fun _ _ => ?_⟩
      refine (ih (recvfrom datagram packet) _).mono ?_ fun _ _ holds => holds
      rintro last status ⟨forked, success, results, count, received, shown⟩
      refine ⟨forked, success, packet :: results, congrArg (· + 1) count, ?_, ?_⟩
      · rw [received]
        exact List.append_assoc _ _ _
      · rw [shown]
        exact List.append_assoc _ _ _

end Parent

/-- What a process of the program has done when it exits. The passes of the child are counted from
one. -/
structure Computed (order : ByteOrder) (draws : Nat → Nat → Draw) (request : Datagram)
    (reply : Buffer 40) (world : World Address) (status : ExitStatus) : Prop where
  child : world.forked = some 0 →
    mainProcess order world.pid draws (accepts (world.calls.map Prod.snd) 1) request =
        some (world.sent.map (·.2.1), status) ∧
      world.calls.length = world.sent.length + if status = .success then 0 else 1
  parent : ∀ ppid, 0 < ppid → world.forked = some ppid → status = .success ∧
    world.received.length = 4 ∧ world.shown = childProcess order reply world.received

section Main

variable {order : ByteOrder} {draws : Nat → Nat → Draw} {request : Datagram} {reply : Buffer 40}
  {post : World Address → Unit → Prop} {world : World Address}

theorem computed_unforked (unforked : ∀ ppid, 0 ≤ ppid → world.forked ≠ some ppid)
    (status : ExitStatus) : Computed order draws request reply world status where
  child forked := absurd forked (unforked 0 (by decide))
  parent ppid positive forked := absurd forked (unforked ppid (Int32.le_of_lt positive))

theorem failToFork_computes (unforked : ∀ ppid, 0 ≤ ppid → world.forked ≠ some ppid) :
    Meets (total Address) (Computed order draws request reply) post world failToFork :=
  meets_quiet (fun _ _ => rfl) nofun trivial fun _ =>
    meets_quiet (fun _ _ => rfl) nofun trivial fun _ => computed_unforked unforked _

theorem main_computes (pid : Int32) (argv : List CString) :
    Meets (total InAddr) (Computed order draws request reply) (fun _ _ => True) { pid }
      (main order draws request reply argv) := by
  have unforked (ppid : Int32) (_ : 0 ≤ ppid) : (none : Option Int32) ≠ some ppid :=
    (Option.some_ne_none ppid).symm
  match argv with
  | [name, node] =>
      refine ⟨⟨trivial, nofun⟩, fun ⟨retval, result⟩ _ => ?_⟩
      refine meets_resolved (fun _ _ => trivial) ?_ ?_ (failToFork_computes unforked)
        fun world sockfd rp _ fresh => ?_
      · intro world fresh
        refine computed_unforked (fun ppid nonnegative => ?_) _
        rw [fresh.1]
        exact unforked ppid nonnegative
      · simp only [List.forall_mem_cons, List.not_mem_nil, false_implies, implies_true, and_true]
        exact ⟨quiet_perror _, quiet_perror _, quiet_pure, quiet_eprintf _⟩
      · obtain ⟨_, uncalled, silent, unread, unshown⟩ := fresh
        refine ⟨⟨trivial, nofun⟩, fun ppid _ => ?_⟩
        show Meets _ _ _ { world with forked := some ppid }
          (if ppid = 0 then _ else if ppid > 0 then _ else _)
        by_cases child : ppid = 0
        · subst child
          rw [if_pos rfl]
          refine (quiet_printf _).bind trivial ?_
          refine (sendRequests_sends sockfd rp.ai_addr _).mono ?_ fun _ _ holds => holds
          rintro last status ⟨forked, pid, results, packets, answered, looped, listed, count⟩
          have called : last.calls.map Prod.snd = results := by
            rw [answered, uncalled]
            rfl
          have emitted : last.sent.map (·.2.1) = packets := by
            rw [listed, silent]
            rfl
          refine ⟨fun _ => ⟨?_, ?_⟩, fun ppid positive other => ?_⟩
          · rw [pid, called, emitted]
            exact looped
          · rw [← List.length_map Prod.snd, called, count, ← emitted, List.length_map]
          · rw [forked] at other
            cases other
            exact absurd positive (by decide)
        · rw [if_neg child]
          by_cases positive : ppid > 0
          · rw [if_pos positive]
            refine (quiet_printf _).bind trivial ?_
            refine (showReplies_shows order sockfd 4 reply _).mono ?_ fun _ _ holds => holds
            rintro last status ⟨forked, success, results, count, received, shown⟩
            rw [unread] at received
            rw [unshown] at shown
            refine ⟨fun other => ?_, fun _ _ _ => ⟨success, ?_, ?_⟩⟩
            · rw [forked] at other
              exact absurd (Option.some.inj other) child
            · rw [received]
              exact count
            · rw [received]
              exact shown
          · rw [if_neg positive]
            refine failToFork_computes fun other nonnegative forked => ?_
            cases forked
            exact (Int32.lt_or_eq_of_le nonnegative).elim positive fun same => child same.symm
  | [] | [_] | _ :: _ :: _ :: _ =>
      exact meets_quiet (fun _ _ => rfl) nofun trivial fun _ =>
        computed_unforked unforked _

end Main

/-- Wherever a process of `ping.cpp` exits, the child has sent the packets of `mainProcess` and
exits as it says for the results that its calls of `sendto` had, and the parent has shown what
`childProcess` makes of the four results that `recvfrom` had, and exits with success. -/
theorem main_refines (order : ByteOrder) (pid : Int32) (draws : Nat → Nat → Draw)
    (request : Datagram) (reply : Buffer 40) (argv : List CString)
    {trace : List (Exchange (Call InAddr) Answer)} {last : World InAddr} {status : ExitStatus}
    (run : Reaches (kernel InAddr) { pid } (main order draws request reply argv) trace last
      (.exit status)) :
    Computed order draws request reply last status :=
  (main_computes pid argv).reaches (run.guard _)

/-- The child, where the second packet is refused, and the parent, where one reply comes in and
`recvfrom` fails three times. -/
theorem main_refines_each :
    (∃ last : World InAddr, last.forked = some 0 ∧ last.calls.map Prod.snd = [40, -1] ∧
      mainProcess .littleEndian 4 (fun _ _ => ⟨65, by decide⟩) (accepts [40, -1] 1)
          ⟨⟨0, 0, 0, 0, 0⟩, .zeroed 32⟩ = some (last.sent.map (·.2.1), .failure) ∧
        last.sent.length = 1) ∧
    ∃ last : World InAddr, last.forked = some 5 ∧
      last.received = [some (List.replicate 28 7), none, none, none] ∧
        last.shown = childProcess .littleEndian (.zeroed 40) last.received := by
  constructor
  · have refused : (-1 : Int32) ≤ -1 := by decide
    have accepted : (-1 : Int32) ≤ 40 := by decide
    have comes : Comes (.exit .failure) (fun last : World InAddr => last.forked = some 0 ∧
        last.pid = 4 ∧ last.calls.map Prod.snd = [40, -1]) { pid := 4 }
        (main .littleEndian (fun _ _ => ⟨65, by decide⟩) ⟨⟨0, 0, 0, 0, 0⟩, .zeroed 32⟩ (.zeroed 40)
          [ascii "ping", ascii "host"]) := by
      refine comes_call (0, [⟨⟨2, 3, 1⟩, #v[10, 0, 0, 1]⟩]) (absurd rfl) ?_
      refine comes_call (some 3) trivial (comes_call true trivial ?_)
      refine comes_call 0 trivial (comes_call () trivial (comes_call 4 rfl ?_))
      obtain ⟨first, done⟩ := fill_total .littleEndian 4 (fun _ => ⟨65, by decide⟩) 1
        ⟨⟨0, 0, 0, 0, 0⟩, .zeroed 32⟩
      show Comes _ _ _ (orOverflow (fill .littleEndian 4 _ 1 _) >>= _)
      rw [done]
      refine comes_call 40 accepted (comes_call () trivial (comes_call () trivial ?_))
      refine comes_call 4 rfl ?_
      obtain ⟨second, done⟩ := fill_total .littleEndian 4 (fun _ => ⟨65, by decide⟩) 2 first
      show Comes _ _ _ (orOverflow (fill .littleEndian 4 _ 2 _) >>= _)
      rw [done]
      refine comes_call (-1) refused (comes_call () trivial ?_)
      exact ⟨[], _, .here, rfl, rfl, rfl⟩
    obtain ⟨trace, last, run, forked, pid, called⟩ := comes
    have computed := main_refines .littleEndian 4 (fun _ _ => ⟨65, by decide⟩)
      ⟨⟨0, 0, 0, 0, 0⟩, .zeroed 32⟩ (.zeroed 40) [ascii "ping", ascii "host"] run
    obtain ⟨sends, count⟩ := computed.child forked
    rw [pid, called] at sends
    rw [← List.length_map Prod.snd, called] at count
    exact ⟨last, forked, called, sends, Nat.succ.inj count.symm⟩
  · have comes : Comes (.exit .success) (fun last : World InAddr => last.forked = some 5 ∧
        last.received = [some (List.replicate 28 7), none, none, none]) { pid := 4 }
        (main .littleEndian (fun _ _ => ⟨65, by decide⟩) ⟨⟨0, 0, 0, 0, 0⟩, .zeroed 32⟩ (.zeroed 40)
          [ascii "ping", ascii "host"]) := by
      refine comes_call (0, [⟨⟨2, 3, 1⟩, #v[10, 0, 0, 1]⟩]) (absurd rfl) ?_
      refine comes_call (some 3) trivial (comes_call true trivial ?_)
      refine comes_call 5 trivial (comes_call () trivial ?_)
      refine comes_call (some (List.replicate 28 7)) trivial (comes_call () trivial ?_)
      refine comes_call none trivial (comes_call () trivial ?_)
      refine comes_call none trivial (comes_call () trivial ?_)
      refine comes_call none trivial (comes_call () trivial ?_)
      exact ⟨[], _, .here, rfl, rfl⟩
    obtain ⟨trace, last, run, forked, received⟩ := comes
    have computed := main_refines .littleEndian 4 (fun _ _ => ⟨65, by decide⟩)
      ⟨⟨0, 0, 0, 0, 0⟩, .zeroed 32⟩ (.zeroed 40) [ascii "ping", ascii "host"] run
    exact ⟨last, forked, received, (computed.parent 5 (by decide) forked).2.2⟩

end NetworkServices.RawSockets.Ping
