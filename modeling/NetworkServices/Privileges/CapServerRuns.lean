import NetworkServices.Privileges.Programs

/-! The two models of `capserver.c` next to each other: what a run under the kernel does to the
capability objects and the socket is what the model without a kernel says for the results that the
calls of the run had. -/

set_option autoImplicit false

namespace NetworkServices.PrivilegedServers

open CapServer (Calls CapabilitySets Ending Handle capNetBindService created)

/-- What a call does to the capability objects, the sets of the thread and the socket. -/
def event (world : World) : Exchange Call Answer → List CapServer.Event
  | ⟨.cap_init, cap⟩ | ⟨.cap_dup _, cap⟩ => if cap = 0 then [] else [.returned cap]
  | ⟨.cap_set_proc cap_p, succeeded⟩ =>
      if succeeded then (world.objects cap_p).toList.map .setProc else []
  | ⟨.bind _ sin_port, answer⟩ => if answer.isSome then [.bound sin_port] else []
  | ⟨.cap_free obj_d, _⟩ => [.freed obj_d]
  | ⟨.listen _, _⟩ => [.listen]
  | _ => []

/-- The ending in front of `accept` is that the server listens. -/
def servesAt (goal : List CapServer.Event → Ending → Prop)
    (state : World × List CapServer.Event) : Call → Prop
  | .accept _ => goal state.2 .listening
  | _ => True

/-- In front of `accept` and at every exit the events so far and the ending are as required. -/
def Serves (goal : List CapServer.Event → Ending → Prop) (state : World × List CapServer.Event)
    (program : Process Unit) : Prop :=
  Meets ((interface.record event).guard (servesAt goal))
    (fun state status => ∃ ending, goal state.2 ending ∧ (status = .success → ending = .listening))
    (fun _ _ => False) state program

section Rules

variable {goal : List CapServer.Event → Ending → Prop} {world : World}
  {events : List CapServer.Event}

theorem serves_call {request : Call} {next : Answer request → Process Unit}
    (other : ∀ fd, request ≠ .accept fd)
    (later : ∀ answer, interface.promise world request answer →
      Serves goal (interface.after world request answer, events ++ event world ⟨request, answer⟩)
        (next answer)) :
    Serves goal (world, events) (.call request next) := by
  refine ⟨?_, later⟩
  cases request with
  | accept fd => exact absurd rfl (other fd)
  | _ => trivial

/-- A call that the other model does not mention. -/
theorem serves_quiet {request : Call} {next : Answer request → Process Unit}
    (other : ∀ fd, request ≠ .accept fd) (silent : ∀ answer, event world ⟨request, answer⟩ = [])
    (later : ∀ answer, interface.promise world request answer →
      Serves goal (interface.after world request answer, events) (next answer)) :
    Serves goal (world, events) (.call request next) := by
  refine serves_call other fun answer promised => ?_
  rw [silent, List.append_nil]
  exact later answer promised

theorem serves_print {stream : Stream} {text : CString} {next : Unit → Process Unit}
    (later : Serves goal (world, events) (next ())) :
    Serves goal (world, events) (fprintf stream text >>= next) :=
  serves_quiet nofun (fun _ => rfl) fun _ _ => later

theorem serves_failWithPerror {Result : Type} {text : CString} {message : String}
    {next : Result → Process Unit} (ends : goal events (.exitFailure message)) :
    Serves goal (world, events) (failWithPerror text >>= next) :=
  serves_quiet nofun (fun _ => rfl) fun _ _ => ⟨_, ends, nofun⟩

theorem serves_failSaying {Result : Type} {text : CString} {message : String}
    {next : Result → Process Unit} (ends : goal events (.exitFailure message)) :
    Serves goal (world, events) (failSaying text >>= next) :=
  serves_quiet nofun (fun _ => rfl) fun _ _ => ⟨_, ends, nofun⟩

/-- Without its port the server fails. -/
theorem serves_invocation {text : CString} {message : String}
    (ends : goal events (.exitFailure message)) : Serves goal (world, events) (failSaying text) :=
  serves_quiet nofun (fun _ => rfl) fun _ _ => ⟨_, ends, nofun⟩

theorem serves_orFail {succeeded : Bool} {text : CString} {message : String}
    {next : Unit → Process Unit} (ends : succeeded = false → goal events (.exitFailure message))
    (later : succeeded = true → Serves goal (world, events) (next ())) :
    Serves goal (world, events) (orFail succeeded text >>= next) := by
  cases succeeded with
  | false => exact serves_failWithPerror (ends rfl)
  | true => exact later rfl

theorem serves_passed {succeeded : Bool} {text : CString} {next : Unit → Process Unit}
    (passed : succeeded = true) (later : Serves goal (world, events) (next ())) :
    Serves goal (world, events) (orFail succeeded text >>= next) := by
  subst passed
  exact later

theorem serves_orNone {Result : Type} {answer : Option Result} {text : CString} {message : String}
    {next : Result → Process Unit} (ends : answer = none → goal events (.exitFailure message))
    (later : ∀ result, answer = some result → Serves goal (world, events) (next result)) :
    Serves goal (world, events) (orNone answer text >>= next) := by
  cases answer with
  | none => exact serves_failWithPerror (ends rfl)
  | some result => exact later result rfl

/-- What happened before is in front of what happens. -/
theorem Serves.frame {front : List CapServer.Event} {program : Process Unit}
    (serves : Serves (fun events => goal (front ++ events)) (world, events) program) :
    Serves goal (world, front ++ events) program := by
  induction program generalizing world events with
  | done result => exact serves
  | exit status => exact serves
  | cut => trivial
  | call request next ih =>
      obtain ⟨allowed, answered⟩ := serves
      refine ⟨?_, fun answer promised => ?_⟩
      · cases request with
        | accept fd => exact allowed
        | _ => trivial
      · have later := ih answer (answered answer promised)
        rw [← List.append_assoc] at later
        exact later

end Rules

/-- The object of a `cap_t` that is not a null pointer is in its place. -/
def Stores (world : World) (cap : Handle) : Prop :=
  world.objects cap.address = if cap.address = 0 then none else some cap.sets

section Objects

variable {world : World} {cap : Handle}

theorem Stores.sets (stores : Stores world cap) {sets : CapabilitySets}
    (found : world.objects cap.address = some sets) : cap.address ≠ 0 ∧ sets = cap.sets := by
  rw [Stores, found] at stores
  by_cases null : cap.address = 0
  · rw [if_pos null] at stores
    cases stores
  · rw [if_neg null] at stores
    exact ⟨null, Option.some.inj stores⟩

theorem Stores.present (stores : Stores world cap)
    (present : (world.objects cap.address).isSome = true) :
    cap.address ≠ 0 ∧ world.objects cap.address = some cap.sets := by
  obtain ⟨sets, found⟩ := Option.isSome_iff_exists.mp present
  obtain ⟨valid, rfl⟩ := stores.sets found
  exact ⟨valid, found⟩

theorem Stores.store (stores : Stores world cap) {other : UInt64} {sets : Option CapabilitySets}
    (apart : other ≠ cap.address) : Stores (world.store other sets) cap :=
  (if_neg (Ne.symm apart)).trans stores

theorem stores_store {sets : CapabilitySets} (valid : cap.address ≠ 0) (same : sets = cap.sets) :
    Stores (world.store cap.address (some sets)) cap := by
  rw [Stores, if_neg valid, ← same]
  exact if_pos rfl

/-- A new object is none of those there were. -/
theorem Stores.apart (stores : Stores world cap) {other : UInt64} (valid : other ≠ 0)
    (unused : world.objects other = none) : other ≠ cap.address := by
  rintro rfl
  rw [Stores, unused, if_neg valid] at stores
  cases stores

end Objects

/-- The same results of `cap_init` and of the first `cap_dup`. -/
structure SameCopies (calls base : Calls) : Prop where
  capInit : calls.capInit = base.capInit
  capDupOff : calls.capDupOff = base.capDupOff

/-- The same results of all calls in front of `socket`. -/
structure SameHead (calls base : Calls) : Prop extends SameCopies calls base where
  raise : ∀ privilegeOff, CapServer.raise calls privilegeOff = CapServer.raise base privilegeOff

section BindAndDrop

variable {goal : List CapServer.Event → Ending → Prop} {world : World} {base : Calls}
  {clear on : Handle} {port_number : UInt32}

theorem serves_requireUnprivileged {ids : Credentials UInt32} {events : List CapServer.Event}
    {next : Unit → Process Unit}
    (ends : ids.effective = 0 ∨ ids.saved = 0 →
      goal events (.exitFailure "Run server as unprivileged user!\n"))
    (later : ¬ (ids.effective = 0 ∨ ids.saved = 0) → Serves goal (world, events) (next ())) :
    Serves goal (world, events) (requireUnprivileged ids >>= next) := by
  rw [requireUnprivileged]
  by_cases root : ids.effective = 0 ∨ ids.saved = 0
  · rw [if_pos root]
    exact serves_failSaying (ends root)
  · rw [if_neg root]
    exact later root

theorem serves_listenAndAccept {listenfd : Nat} {events : List CapServer.Event}
    (refused : goal (events ++ [.listen]) (.exitFailure "listen()"))
    (listens : goal (events ++ [.listen]) .listening) :
    Serves goal (world, events) (listenAndAccept listenfd) := by
  rw [listenAndAccept]
  refine serves_call nofun fun succeeded _ => serves_orFail (fun _ => refused) fun _ => ?_
  refine serves_print ?_
  rw [acceptOne]
  refine ⟨listens, fun answer _ => ?_⟩
  show Serves goal (_, (events ++ [.listen]) ++ []) (orNone answer _ >>= _)
  rw [List.append_nil]
  cases answer with
  | none => exact serves_quiet nofun (fun _ => rfl) fun _ _ => ⟨.listening, listens, nofun⟩
  | some connection =>
      refine serves_print (serves_quiet nofun (fun _ => rfl) fun _ _ => serves_print ?_)
      refine serves_quiet nofun (fun _ => rfl) fun _ _ => ?_
      exact serves_quiet nofun (fun _ => rfl) fun _ _ => ⟨.listening, listens, fun _ => rfl⟩

/-- The results from `socket` on, behind those of another record. -/
def withTail (base : Calls) (socket : Bool) (getresuid : Option (Credentials UInt32))
    (bind capSetProcClear capFreeOn capFreeClear listen : Bool) : Calls :=
  { base with socket, getresuid, bind, capSetProcClear, capFreeOn, capFreeClear, listen }

theorem sameHead_withTail (base : Calls) (socket : Bool)
    (getresuid : Option (Credentials UInt32))
    (bind capSetProcClear capFreeOn capFreeClear listen : Bool) :
    SameHead (withTail base socket getresuid bind capSetProcClear capFreeOn capFreeClear listen)
      base :=
  ⟨⟨rfl, rfl⟩, fun _ => rfl⟩

theorem serves_bindAndDrop (stores : Stores world clear)
    (ends : ∀ calls, SameHead calls base →
      goal (CapServer.bindAndDrop port_number calls clear on).1
        (CapServer.bindAndDrop port_number calls clear on).2) :
    Serves goal (world, []) (bindAndDrop port_number clear.address on.address) := by
  have tail (socket : Bool) (getresuid : Option (Credentials UInt32))
      (bind capSetProcClear capFreeOn capFreeClear listen : Bool) :=
    ends _ (sameHead_withTail base socket getresuid bind capSetProcClear capFreeOn capFreeClear
      listen)
  simp only [CapServer.bindAndDrop, withTail] at tail
  rw [bindAndDrop, openSocket]
  simp only [bind_assoc]
  refine serves_quiet nofun (fun _ => rfl) fun answer _ => serves_orNone
    (fun _ => tail false none false false false false false) fun listenfd _ => ?_
  rw [showIds]
  simp only [bind_assoc]
  refine serves_quiet nofun (fun _ => rfl) fun answer _ => serves_orNone
    (fun _ => tail true none false false false false false) fun ids _ => serves_print ?_
  rw [bindPort]
  simp only [bind_assoc]
  refine serves_print (serves_call nofun fun answer _ => ?_)
  cases answer with
  | none => exact serves_orFail (fun _ => tail true (some ids) false false false false false) nofun
  | some port =>
      refine serves_passed rfl (serves_call nofun fun cleared promised => ?_)
      cases cleared with
      | false =>
          have refused : goal [.bound port_number.toUInt16] (.exitFailure "cap_set_proc()") := by
            simpa using tail true (some ids) true false false false false
          exact serves_failWithPerror refused
      | true =>
          obtain ⟨privileges, cleared⟩ := Option.isSome_iff_exists.mp (promised rfl)
          obtain ⟨sets, found, _⟩ := Option.bind_eq_some_iff.mp cleared
          obtain ⟨valid, rfl⟩ := stores.sets found
          have present : world.objects clear.address = some clear.sets := found
          refine serves_passed rfl ?_
          have events : [.bound port_number.toUInt16] ++ (world.objects clear.address).toList.map
              .setProc = [CapServer.Event.bound port_number.toUInt16, .setProc clear.sets] := by
            rw [present]
            rfl
          show Serves goal (_, [.bound port_number.toUInt16] ++
            (world.objects clear.address).toList.map .setProc) (freeCapabilities _ _ >>= _)
          rw [events, freeCapabilities]
          simp only [bind_assoc]
          refine serves_call nofun fun freed _ => ?_
          cases freed with
          | false =>
              have kept : goal [.bound port_number.toUInt16, .setProc clear.sets,
                  .freed on.address] (.exitFailure "cap_free()") := by
                simpa [valid] using tail true (some ids) true true false false false
              exact serves_failWithPerror kept
          | true =>
              have freed (capFreeClear listen : Bool) :=
                tail true (some ids) true true true capFreeClear listen
              simp only [valid, Bool.true_eq_false, if_false, false_or] at freed
              refine serves_call nofun fun cleared _ => serves_orFail
                (fun _ => freed false false) fun _ => ?_
              refine serves_requireUnprivileged (fun root => ?_) fun user => ?_
              · have refused := freed true false
                simp only [root, if_true, Bool.true_eq_false, if_false] at refused
                exact refused
              · have listened (listen : Bool) := freed true listen
                simp only [user, if_false, Bool.true_eq_false] at listened
                exact serves_listenAndAccept (listened false) (listened true)

end BindAndDrop

section Raise

variable {goal : List CapServer.Event → Ending → Prop} {world : World} {base : Calls}
  {clear off : Handle}

/-- The results of the block under `if (port_number < 1024)`, behind those of another record. -/
def withRaise (base : Calls) (capSetFlagOff : Bool) (capDupOn : UInt64)
    (capSetFlagOn capSetProcOn : Bool)
    (distinctOn : capDupOn ≠ 0 → capDupOn ≠ base.capInit ∧ capDupOn ≠ base.capDupOff) : Calls :=
  { base with capSetFlagOff, capDupOn, capSetFlagOn, capSetProcOn, distinctOn }

theorem after_cap_set_flag {cap : Handle} {flag : Flag} (found : world.objects cap.address =
    some cap.sets) : interface.after world (.cap_set_flag cap.address flag) true =
      world.store cap.address (some (setFlag cap.sets flag)) := by
  change world.store cap.address ((world.objects cap.address).map (setFlag · flag)) = _
  rw [found]
  rfl

/-- From the second object on, which has been allocated. -/
theorem serves_raised {next : UInt64 → Process Unit} {on : Handle} (cleared : Stores world clear)
    (stores : Stores world on) (valid : on.address ≠ 0) (apart : on.address ≠ clear.address)
    (unflagged : goal [.returned on.address] (.exitFailure "cap_set_flag()"))
    (unset : goal [.returned on.address] (.exitFailure "cap_set_proc()"))
    (later : ∀ world, Stores world clear →
      Serves goal (world, [.returned on.address,
        .setProc (on.setEffective capNetBindService).sets]) (next on.address)) :
    Serves goal (world, [.returned on.address]) (do
      orFail (← .invoke (Call.cap_set_flag on.address .CAP_EFFECTIVE)) (ascii "cap_set_flag()")
      orFail (← .invoke (Call.cap_set_proc on.address)) (ascii "cap_set_proc()")
      next on.address) := by
  refine serves_quiet nofun (fun _ => rfl) fun flagged promised => serves_orFail
    (fun _ => unflagged) fun accepted => ?_
  obtain rfl : flagged = true := accepted
  obtain ⟨_, found⟩ := stores.present (promised rfl)
  rw [after_cap_set_flag found]
  have effective : Stores (world.store on.address (some (setFlag on.sets .CAP_EFFECTIVE)))
      (on.setEffective capNetBindService) :=
    @stores_store world (on.setEffective capNetBindService) _ valid rfl
  have kept : Stores (world.store on.address (some (setFlag on.sets .CAP_EFFECTIVE))) clear :=
    cleared.store apart
  generalize world.store on.address (some (setFlag on.sets .CAP_EFFECTIVE)) = world
    at effective kept
  refine serves_call nofun fun succeeded _ => ?_
  cases succeeded with
  | false => exact serves_failWithPerror unset
  | true =>
      have present : world.objects on.address = some (on.setEffective capNetBindService).sets :=
        effective.trans (if_neg valid)
      refine serves_passed rfl ?_
      show Serves goal (_, [.returned on.address] ++
        (world.objects on.address).toList.map .setProc) (next on.address)
      rw [present]
      exact later _ kept

theorem serves_raisePrivilege {next : UInt64 → Process Unit} (null : world.objects 0 = none)
    (cleared : Stores world clear) (stores : Stores world off)
    (apart : off.address ≠ 0 → off.address ≠ clear.address)
    (initial : clear.address = base.capInit) (copied : off.address = base.capDupOff)
    (fails : ∀ calls, SameCopies calls base → ∀ raised message,
      CapServer.raise calls off = (raised, .error message) → goal raised (.exitFailure message))
    (later : ∀ calls, SameCopies calls base → ∀ raised on,
      CapServer.raise calls off = (raised, .ok on) → ∀ world, Stores world clear →
        Serves goal (world, raised) (next on.address)) :
    Serves goal (world, []) (raisePrivilege off.address >>= next) := by
  rw [raisePrivilege]
  simp only [bind_assoc, pure_bind]
  have refused : goal [] (.exitFailure "cap_set_flag()") :=
    fails (withRaise base false 0 false false fun valid => absurd rfl valid) ⟨rfl, rfl⟩ [] _
      (if_pos (.inr rfl))
  refine serves_quiet nofun (fun _ => rfl) fun flagged promised => serves_orFail
    (fun _ => refused) fun accepted => ?_
  obtain rfl : flagged = true := accepted
  obtain ⟨valid, found⟩ := stores.present (promised rfl)
  rw [after_cap_set_flag found]
  have permitted : Stores (world.store off.address (some (setFlag off.sets .CAP_PERMITTED)))
      (off.setPermitted capNetBindService) :=
    @stores_store world (off.setPermitted capNetBindService) _ valid rfl
  have kept : Stores (world.store off.address (some (setFlag off.sets .CAP_PERMITTED))) clear :=
    cleared.store (apart valid)
  have null' : (world.store off.address (some (setFlag off.sets .CAP_PERMITTED))).objects 0 =
      none := (if_neg (Ne.symm valid)).trans null
  generalize world.store off.address (some (setFlag off.sets .CAP_PERMITTED)) = world
    at permitted kept null'
  refine serves_call nofun fun on allocated => ?_
  by_cases missing : on = 0
  · subst missing
    refine serves_quiet nofun (fun _ => rfl) fun flagged promised => ?_
    cases flagged with
    | false => exact serves_failWithPerror refused
    | true =>
        have present : (world.objects 0).isSome = true := promised rfl
        rw [null'] at present
        cases present
  · obtain ⟨unused, _⟩ := allocated missing
    have present : world.objects off.address = some (off.setPermitted capNetBindService).sets :=
      permitted.trans (if_neg valid)
    have fromOff : on ≠ off.address := permitted.apart missing unused
    have fromClear : on ≠ clear.address := kept.apart missing unused
    have distinct : on ≠ 0 → on ≠ base.capInit ∧ on ≠ base.capDupOff :=
      fun _ => ⟨initial ▸ fromClear, copied ▸ fromOff⟩
    have world' : interface.after world (.cap_dup off.address) on =
        world.store on (some (off.setPermitted capNetBindService).sets) := by
      change (if on = 0 then world else world.store on (world.objects off.address)) = _
      rw [if_neg missing, present]
    have returned : [] ++ event world ⟨.cap_dup off.address, on⟩ = [.returned on] := if_neg missing
    rw [world', returned]
    have same (capSetFlagOn capSetProcOn : Bool) :
        SameCopies (withRaise base true on capSetFlagOn capSetProcOn distinct) base := ⟨rfl, rfl⟩
    let raised : Handle := ⟨on, (off.setPermitted capNetBindService).sets⟩
    have raise (capSetFlagOn capSetProcOn : Bool) :
        CapServer.raise (withRaise base true on capSetFlagOn capSetProcOn distinct) off =
          if capSetFlagOn = false then ([.returned on], .error "cap_set_flag()")
          else if capSetProcOn = false then ([.returned on], .error "cap_set_proc()")
          else ([.returned on, .setProc (raised.setEffective capNetBindService).sets],
            .ok (raised.setEffective capNetBindService)) := by
      simp [raised, CapServer.raise, withRaise, valid, missing, created, Handle.setEffective]
    refine @serves_raised _ _ clear next raised
      (kept.store fromClear) (stores_store missing rfl) missing fromClear ?_ ?_ ?_
    · exact fails _ (same false false) _ _ (raise false false)
    · exact fails _ (same true false) _ _ (raise true false)
    · exact fun world kept => later _ (same true true) _ _ (raise true true) world kept

end Raise

/-- Behind `cap_init` and the first `cap_dup`, either of which may return a null pointer. -/
theorem serves_copies {goal : List CapServer.Event → Ending → Prop} {world : World}
    {next : UInt64 → UInt64 → Process Unit} (null : world.objects 0 = none)
    (later : ∀ world clear off, world.objects 0 = none → Stores world ⟨clear, .empty⟩ →
      Stores world ⟨off, .empty⟩ → (off ≠ 0 → off ≠ clear) →
        Serves goal (world, created ⟨clear, .empty⟩ ++ created ⟨off, .empty⟩) (next clear off)) :
    Serves goal (world, []) (do
      let clear ← .invoke Call.cap_init
      let off ← .invoke (Call.cap_dup clear)
      next clear off) := by
  refine serves_call nofun fun clear unused => serves_call nofun fun off allocated => ?_
  show Serves goal (_, created ⟨clear, .empty⟩ ++ created ⟨off, .empty⟩) (next clear off)
  have cleared : (interface.after world .cap_init clear).objects 0 = none ∧
      Stores (interface.after world .cap_init clear) ⟨clear, .empty⟩ := by
    change (if clear = 0 then world else world.store clear (some .empty)).objects 0 = none ∧
      Stores (if clear = 0 then world else world.store clear (some .empty)) ⟨clear, .empty⟩
    by_cases missing : clear = 0
    · rw [if_pos missing]
      refine ⟨null, ?_⟩
      subst missing
      exact null
    · rw [if_neg missing]
      exact ⟨(if_neg (Ne.symm missing)).trans null,
        @stores_store world ⟨clear, .empty⟩ _ missing rfl⟩
  generalize interface.after world .cap_init clear = world at allocated cleared
  obtain ⟨null, cleared⟩ := cleared
  change Serves goal (if off = 0 then world else world.store off (world.objects clear), _) _
  by_cases missing : off = 0
  · rw [if_pos missing]
    subst missing
    exact later world clear 0 null cleared null fun valid => absurd rfl valid
  · obtain ⟨unused, present⟩ := allocated missing
    have apart : off ≠ clear := cleared.apart missing unused
    rw [if_neg missing, (cleared.present present).2]
    exact later _ clear off ((if_neg (Ne.symm missing)).trans null) (cleared.store apart)
      (@stores_store world ⟨off, .empty⟩ _ missing rfl) fun _ => apart

/-- For any answers of the kernel: what a run of `capserver.c` has done to its capability objects,
its capability sets and its socket in front of `accept` and at every exit, the model without a
kernel does for some results of the calls, and it ends in the same way. -/
theorem serves_capserver {start : World} (null : start.objects 0 = none) (argv : List CString)
    (privilege_on : Handle) :
    Serves (fun events ending => ∃ calls, CapServer.main argv calls privilege_on = (events, ending))
      (start, []) (capserver argv privilege_on.address) := by
  unfold capserver
  split
  next name port =>
    refine serves_copies null fun world clear off null cleared stores apart => ?_
    obtain ⟨base, initial, copied⟩ : ∃ base : Calls, base.capInit = clear ∧ base.capDupOff = off :=
      ⟨⟨clear, off, false, 0, false, false, false, none, false, false, false, false, false, apart,
        fun valid => absurd rfl valid⟩, rfl, rfl⟩
    rw [← List.append_nil (created _ ++ created _)]
    refine Serves.frame ?_
    by_cases low : (atoi port).toUInt32 < 1024
    · rw [if_pos low]
      refine @serves_raisePrivilege _ world base ⟨clear, .empty⟩ ⟨off, .empty⟩ _ null cleared stores
        apart initial.symm copied.symm ?_ ?_
      · intro calls same raised message failed
        refine ⟨calls, ?_⟩
        simp [CapServer.main, CapServer.serve, low, same.capInit, same.capDupOff, initial, copied,
          failed]
      · intro calls same raised on succeeded world kept
        rw [← List.append_nil raised]
        refine Serves.frame (@serves_bindAndDrop _ world calls ⟨clear, .empty⟩ on _ kept ?_)
        intro calls' head
        refine ⟨calls', ?_⟩
        simp [CapServer.main, CapServer.serve, low, head.capInit, head.capDupOff, same.capInit,
          same.capDupOff, initial, copied, head.raise, succeeded]
    · rw [if_neg low]
      refine @serves_bindAndDrop _ world base ⟨clear, .empty⟩ privilege_on _ cleared ?_
      intro calls head
      refine ⟨calls, ?_⟩
      simp [CapServer.main, CapServer.serve, low, head.capInit, head.capDupOff, initial, copied]
  next other =>
    have refused : ∃ calls, CapServer.main argv calls privilege_on =
        ([], .exitFailure "Invocation: %s <PORT>\n") := by
      refine ⟨⟨0, 0, false, 0, false, false, false, none, false, false, false, false, false,
        fun valid => absurd rfl valid, fun valid => absurd rfl valid⟩, ?_⟩
      unfold CapServer.main
      split
      next name port => exact absurd rfl (other name port)
      next => rfl
    exact serves_invocation refused

/-- What every run has done when it comes to `accept` or to its end. -/
theorem capserver_refines {start last : World} {argv : List CString} {privilege_on : Handle}
    {trace : List (Exchange Call Answer)} {left : Process Unit} (null : start.objects 0 = none)
    (run : Reaches interface start (capserver argv privilege_on.address) trace last left) :
    ∃ events, Reaches (interface.record event) (start, []) (capserver argv privilege_on.address)
        trace (last, events) left ∧
      (∀ sockfd next, left = .call (.accept sockfd) next →
        ∃ calls, CapServer.main argv calls privilege_on = (events, .listening)) ∧
      ∀ status, left = .exit status →
        ∃ calls ending, CapServer.main argv calls privilege_on = (events, ending) ∧
          (status = .success → ending = .listening) := by
  obtain ⟨events, recorded⟩ := run.record []
  rw [List.nil_append] at recorded
  have serves := Meets.reaches (serves_capserver null argv privilege_on) (recorded.guard _)
  refine ⟨events, recorded, ?_, ?_⟩
  · rintro sockfd next rfl
    exact serves.1
  · rintro status rfl
    obtain ⟨ending, ⟨calls, same⟩, listens⟩ := serves
    exact ⟨calls, ending, same, listens⟩

end NetworkServices.PrivilegedServers
