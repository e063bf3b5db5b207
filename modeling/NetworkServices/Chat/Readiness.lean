import NetworkServices.Chat.ServerProperties
import Mathlib.Data.List.Count

/-! Which descriptors a round reads. The loop runs over as many slots as there were
when it started, so a client that leaves makes it skip the next one and look at a
slot behind the end, unless it was the last. -/

set_option autoImplicit false

namespace NetworkServices.Chat

def Select.reported : Select → FdSet
  | .ready reported => reported
  | _ => fun _ => false

def Visit.descriptor (visit : Visit) : Option Nat :=
  visit.read.map (·.1)

def Result.reads (result : Result) : List Nat :=
  result.visits.filterMap Visit.descriptor

/-- A round calls `accept` only when `select` reported the listening socket, `read`
once on each connected client that it reported and on nothing else, and looks at
no slot outside the vector. -/
structure ReadsOnce (server : Server) (input : Input) (result : Result) : Prop where
  accept : result.accept ≠ none → input.select.reported server.listenSocketDescriptor = true
  reads : ∀ fd, result.reads.count fd =
    if fd ∈ server.clients.elements ∧ input.select.reported fd = true then 1 else 0
  inside : ∀ visit ∈ result.visits, visit.slot < visit.size

/-- Whether the broadcast behind a `read` ends the process, among that many clients. -/
def Answer.breaks (answer : Answer) (count : Nat) : Bool :=
  answer.broken.any (· + 1 < count)

/-- Reading the ready ones of the clients in order, among `count` connected ones. A
client that has left makes the loop skip the one behind it and, unless it is the last
one, go behind the end, which only a broadcast that ends the process prevents.
`shifted` says that somebody has left already. -/
def ReadsEach (ready : FdSet) : Bool → Nat → List Nat → List Answer → Prop
  | shifted, _, [], _ => shifted = false
  | shifted, count, element :: rest, answers =>
      if ready element then
        match answers with
        | [] => False
        | answer :: answers =>
            if answer.read = .finished then
              match rest with
              | [] => shifted = false
              | skipped :: rest =>
                  ready skipped = false ∧ ReadsEach ready true (count - 1) rest answers
            else if answer.breaks count then ∀ fd ∈ rest, ready fd = false
            else ReadsEach ready shifted count rest answers
      else ReadsEach ready shifted count rest answers

def Server.ready (server : Server) (reported : FdSet) : FdSet := fun fd =>
  decide (fd ∈ server.clients.elements) && reported fd

/-- The rounds in which the loop sees what `select` reported: `select` is not
interrupted, a connection is either completed or finds no client ready, and the loop
gets to every client that is ready, the slot of a new client included. -/
def Steady (server : Server) (input : Input) : Prop :=
  match input.select with
  | .failed => True
  | .interrupted => False
  | .ready reported =>
      if reported server.listenSocketDescriptor then
        match input.accepted, input.welcomed with
        | some new_socket, true =>
            ReadsEach (server.ready reported) false (server.clients.size + 1)
              (server.clients.elements ++ [new_socket]) input.answers
        | _, _ => ∀ fd ∈ server.clients.elements, reported fd = false
      else
        ReadsEach (server.ready reported) false server.clients.size server.clients.elements
          input.answers

section ReadsEach

variable {ready : FdSet} {element : Nat}

theorem readsEach_nil (ready : FdSet) (shifted : Bool) (count : Nat) (answers : List Answer) :
    ReadsEach ready shifted count [] answers ↔ shifted = false :=
  .rfl

theorem readsEach_of_unready (unready : ready element = false) (shifted : Bool) (count : Nat)
    (rest : List Nat) (answers : List Answer) :
    ReadsEach ready shifted count (element :: rest) answers ↔
      ReadsEach ready shifted count rest answers := by
  conv_lhs => unfold ReadsEach
  rw [unready, if_neg Bool.false_ne_true]

theorem readsEach_of_left (isReady : ready element = true) (shifted : Bool) (count : Nat)
    (broken : Option Nat) (answers : List Answer) :
    ReadsEach ready shifted count [element] (⟨.finished, broken⟩ :: answers) ↔
      shifted = false := by
  rw [ReadsEach, isReady, if_pos rfl]
  exact .rfl

theorem readsEach_of_skipped (isReady : ready element = true) (shifted : Bool) (count : Nat)
    (skipped : Nat) (rest : List Nat) (broken : Option Nat) (answers : List Answer) :
    ReadsEach ready shifted count (element :: skipped :: rest) (⟨.finished, broken⟩ :: answers) ↔
      ready skipped = false ∧ ReadsEach ready true (count - 1) rest answers := by
  rw [ReadsEach, isReady, if_pos rfl]
  exact .rfl

theorem readsEach_of_served (isReady : ready element = true) (shifted : Bool) (count : Nat)
    (rest : List Nat) {answer : Answer} (served : answer.read ≠ .finished)
    (answers : List Answer) :
    ReadsEach ready shifted count (element :: rest) (answer :: answers) ↔
      if answer.breaks count then ∀ fd ∈ rest, ready fd = false
      else ReadsEach ready shifted count rest answers := by
  conv_lhs => unfold ReadsEach
  rw [isReady, if_pos rfl]
  dsimp only
  rw [if_neg served]

theorem ReadsEach.congr {ready ready' : FdSet} {elements : List Nat}
    (same : ∀ fd ∈ elements, ready fd = ready' fd) (shifted : Bool) (count : Nat)
    (answers : List Answer) :
    ReadsEach ready shifted count elements answers ↔
      ReadsEach ready' shifted count elements answers := by
  induction shifted, count, elements, answers using ReadsEach.induct ready with
  | case1 => exact .rfl
  | case2 shifted count element rest isReady =>
      have also := (same element (.head _)).symm.trans isReady
      rw [ReadsEach, ReadsEach, isReady, also]
      exact .rfl
  | case3 shifted count element isReady answer answers left =>
      obtain ⟨read, broken⟩ := answer
      obtain rfl : read = .finished := left
      have also := (same element (.head _)).symm.trans isReady
      rw [readsEach_of_left isReady, readsEach_of_left also]
  | case4 shifted count element isReady answer answers left skipped rest ih =>
      obtain ⟨read, broken⟩ := answer
      obtain rfl : read = .finished := left
      have also := (same element (.head _)).symm.trans isReady
      rw [readsEach_of_skipped isReady, readsEach_of_skipped also,
        same skipped (.tail _ (.head _)),
        ih fun fd member => same fd (.tail _ (.tail _ member))]
  | case5 shifted count element rest isReady answer answers served breaks =>
      have also := (same element (.head _)).symm.trans isReady
      rw [readsEach_of_served isReady _ _ _ served, readsEach_of_served also _ _ _ served,
        if_pos breaks, if_pos breaks]
      exact forall₂_congr fun fd member => by rw [same fd (.tail _ member)]
  | case6 shifted count element rest isReady answer answers served continues ih =>
      have also := (same element (.head _)).symm.trans isReady
      rw [readsEach_of_served isReady _ _ _ served, readsEach_of_served also _ _ _ served,
        if_neg continues, if_neg continues, ih fun fd member => same fd (.tail _ member)]
  | case7 shifted count element rest answers unready ih =>
      have dropped := Bool.not_eq_true _ ▸ unready
      have also := (same element (.head _)).symm.trans dropped
      rw [readsEach_of_unready dropped, readsEach_of_unready also,
        ih fun fd member => same fd (.tail _ member)]

end ReadsEach

/-!
## The loop
-/

section Step

variable {beyond : List UInt8} {slot : Nat} {state next : State} {visit : Visit}
  {control : Control}

theorem Step.slot_eq (step : Step beyond state slot visit control next) : visit.slot = slot := by
  cases step <;> rfl

theorem Step.size_eq (step : Step beyond state slot visit control next) :
    visit.size = state.clients.size := by
  cases step <;> rfl

theorem Step.size_le (step : Step beyond state slot visit control next) :
    next.clients.size ≤ state.clients.size := by
  rw [← next.clients.length_elements, ← state.clients.length_elements]
  exact step.sublist.length_le

end Step

section Loop

variable {beyond : List UInt8} {count slot : Nat} {state next final : State} {visit : Visit}
  {visits : List Visit} {control : Control}

/-- Once the vector is shorter than the loop, it looks behind the end. -/
theorem Steps.beyond_end (steps : Steps beyond (count + 1) slot state visits control final)
    (behind : state.clients.size ≤ slot) : ∃ visit ∈ visits, visit.size ≤ visit.slot := by
  cases steps with
  | next step | stopped step =>
      refine ⟨_, .head _, ?_⟩
      rw [step.size_eq, step.slot_eq]
      exact behind

theorem State.drop_elements (inside : slot < state.clients.size) :
    state.clients.elements.drop slot =
      state.element slot :: state.clients.elements.drop (slot + 1) := by
  have bound : slot < state.clients.elements.length := by
    rwa [state.clients.length_elements]
  have whole : slot < state.clients.slots.length := Nat.lt_of_lt_of_le inside state.clients.size_le
  rw [List.drop_eq_getElem_cons bound, State.element, List.getElem?_eq_getElem whole,
    Option.getD_some]
  congr 1
  exact List.getElem_take

theorem State.drop_elements_eq_nil_iff :
    state.clients.elements.drop slot = [] ↔ state.clients.size ≤ slot := by
  rw [List.drop_eq_nil_iff, state.clients.length_elements]

/-- The client behind the one that is erased is moved to the slot already visited. -/
theorem drop_erased {shorter : SlotVector Nat} (nodup : state.clients.elements.Nodup)
    (inside : slot < state.clients.size)
    (erased : SlotVector.Erased state.clients (state.element slot) shorter) :
    shorter.elements.drop (slot + 1) = state.clients.elements.drop (slot + 2) := by
  have bound : slot < state.clients.elements.length := by
    rwa [state.clients.length_elements]
  have first : state.element slot = state.clients.elements[slot] := by
    have dropped := State.drop_elements inside
    rw [List.drop_eq_getElem_cons bound] at dropped
    exact (List.cons.inj dropped).1.symm
  rw [erased.elements, first, nodup.erase_getElem]
  have front : (state.clients.elements.take slot).length = slot := by
    rw [List.length_take]
    omega
  rw [List.eraseIdx_eq_take_drop_succ, List.drop_append, front, List.drop_of_length_le (by omega),
    List.nil_append, List.drop_drop]
  congr 1
  omega

theorem Step.reads_sublist (step : Step beyond state slot visit control next)
    (nodup : state.clients.elements.Nodup) (inside : slot < state.clients.size)
    {later : List Nat} (rest : later.Sublist (next.clients.elements.drop (slot + 1))) :
    (visit.descriptor.toList ++ later).Sublist (state.clients.elements.drop slot) := by
  rw [State.drop_elements inside]
  cases step with
  | skipped => exact .cons _ rest
  | pending | wrote | failed => exact .cons_cons _ rest
  | left watched remaining member erased =>
      rw [drop_erased nodup inside erased] at rest
      exact .cons_cons _ (rest.trans (List.drop_sublist_drop_left _ (Nat.le_succ _)))

theorem reads_cons (visit : Visit) (visits : List Visit) :
    (visit :: visits).filterMap Visit.descriptor =
      visit.descriptor.toList ++ visits.filterMap Visit.descriptor := by
  rw [List.filterMap_cons]
  cases visit.descriptor <;> rfl

/-- A loop that stays inside the vector reads clients from the slot on, each once. -/
theorem Steps.reads_sublist {whole : Nat}
    (steps : Steps beyond count slot state visits control final)
    (invariant : Invariant whole state)
    (inside : ∀ visit ∈ visits, visit.slot < visit.size) :
    (visits.filterMap Visit.descriptor).Sublist (state.clients.elements.drop slot) := by
  induction steps with
  | done => exact List.nil_sublist _
  | next step _ ih =>
      obtain ⟨here, later⟩ := List.forall_mem_cons.mp inside
      rw [step.slot_eq, step.size_eq] at here
      rw [reads_cons]
      exact step.reads_sublist invariant.nodup here (ih (invariant.step step) later)
  | stopped step =>
      obtain ⟨here, _⟩ := List.forall_mem_cons.mp inside
      rw [step.slot_eq, step.size_eq] at here
      rw [reads_cons]
      exact step.reads_sublist invariant.nodup here (List.nil_sublist _)

/-- Behind a `read` that did not find the client gone, only a broadcast that ends the
process ends the loop. -/
theorem Step.breaks_iff {whole : Nat}
    (step : Step beyond state slot visit control next) (invariant : Invariant whole state)
    (watched : state.watchedSockets (state.element slot) = true) {answer : Answer}
    {answers : List Answer} (taken : state.answers = answer :: answers)
    (served : answer.read ≠ .finished) :
    answer.breaks state.clients.size = true ↔ control ≠ .running := by
  have broken_iff (broken : Option Nat) :
      broken.any (· + 1 < state.clients.size) = true ↔
        ∃ call ∈ broken, call + 1 < state.clients.size := by
    cases broken <;> simp
  cases step with
  | skipped unwatched => exact absurd watched (by rw [unwatched]; decide)
  | pending _ remaining => cases remaining.symm.trans taken
  | left _ remaining =>
      cases remaining.symm.trans taken
      exact absurd rfl served
  | wrote _ remaining member sent | failed _ remaining member sent =>
      cases remaining.symm.trans taken
      rw [Answer.breaks, broken_iff, ← broadcast_killed_iff invariant.nodup member, sent]

theorem Steps.readsEach_of_behind {shifted : Bool} {reads : Prop}
    (steps : Steps beyond (count + 1) slot state visits control final)
    (behind : state.clients.size ≤ slot)
    (late : shifted = true ↔ state.clients.size < slot + (count + 1)) :
    (reads ∧ ∀ visit ∈ visits, visit.slot < visit.size) ↔
      ReadsEach state.watchedSockets shifted state.clients.size
        (state.clients.elements.drop slot) state.answers := by
  obtain ⟨visit, member, past⟩ := steps.beyond_end behind
  rw [State.drop_elements_eq_nil_iff.mpr behind, readsEach_nil, late.mpr (by omega)]
  exact iff_of_false (fun both => absurd (both.2 visit member) (Nat.not_lt.mpr past)) (by decide)

/-- If `read` returns for each client that is watched, the loop reads these and stays
inside the vector exactly under the condition. -/
theorem Steps.readsEach_iff {whole : Nat} {shifted : Bool}
    (steps : Steps beyond count slot state visits control final)
    (invariant : Invariant whole state) (reach : slot ≤ state.clients.size)
    (bound : state.clients.size ≤ slot + count)
    (late : shifted = true ↔ state.clients.size < slot + count)
    (answered : ((state.clients.elements.drop slot).filter state.watchedSockets).length ≤
      state.answers.length) :
    ((visits.filterMap Visit.descriptor).Perm
        ((state.clients.elements.drop slot).filter state.watchedSockets) ∧
      ∀ visit ∈ visits, visit.slot < visit.size) ↔
      ReadsEach state.watchedSockets shifted state.clients.size
        (state.clients.elements.drop slot) state.answers := by
  induction steps generalizing shifted with
  | done slot state =>
      have nobody : state.clients.elements.drop slot = [] := State.drop_elements_eq_nil_iff.mpr bound
      rw [nobody, readsEach_nil]
      refine iff_of_true ⟨.refl _, fun visit member => by cases member⟩ ?_
      cases shifted with
      | false => rfl
      | true => exact absurd (late.mp rfl) (Nat.not_lt.mpr reach)
  | @next count slot state middle final visit visits control step steps ih =>
      rcases Nat.lt_or_ge slot state.clients.size with inside | behind
      rotate_left
      · exact (Steps.next step steps).readsEach_of_behind behind late
      have here : visit.slot < visit.size := by rwa [step.slot_eq, step.size_eq]
      have kept := invariant.step step
      have distinct := invariant.nodup.sublist (List.drop_sublist slot _)
      rw [State.drop_elements inside] at answered distinct ⊢
      rw [reads_cons, List.forall_mem_cons, and_iff_right here]
      have breaks watched {answer answers} :=
        @Step.breaks_iff _ _ _ _ _ _ _ step invariant watched answer answers
      cases step with
      | skipped unwatched =>
          have dropped : ¬ state.watchedSockets (state.element slot) = true := by
            rw [unwatched]
            decide
          rw [List.filter_cons_of_neg dropped] at answered ⊢
          rw [readsEach_of_unready unwatched,
            ← ih kept inside (by omega) (late.trans (by omega)) answered]
          exact .rfl
      | @left shorter broken answers watched remaining member erased =>
          have sizes := erased.size
          have moved := drop_erased invariant.nodup inside erased
          rw [remaining]
          rw [remaining, List.filter_cons_of_pos watched] at answered
          rw [List.filter_cons_of_pos watched]
          change ([state.element slot] ++ visits.filterMap Visit.descriptor).Perm _ ∧ _ ↔ _
          rw [List.singleton_append, List.perm_cons]
          cases listed : state.clients.elements.drop (slot + 1) with
          | nil =>
              have last := State.drop_elements_eq_nil_iff.mp listed
              rw [readsEach_of_left watched]
              cases count with
              | zero =>
                  cases steps
                  refine iff_of_true ⟨.refl _, fun visit member => by cases member⟩ ?_
                  exact eq_false_of_ne_true fun shifts => absurd (late.mp shifts) (by omega)
              | succ count =>
                  obtain ⟨visit, later, past⟩ := steps.beyond_end (by
                    change shorter.size ≤ slot + 1
                    omega)
                  rw [late.mpr (by omega)]
                  exact iff_of_false
                    (fun both => absurd (both.2 visit later) (Nat.not_lt.mpr past)) (by decide)
          | cons skipped rest =>
              have tail : shorter.elements.drop (slot + 1) = rest := by
                rw [moved, ← List.tail_drop, listed]
                rfl
              rw [listed] at answered distinct
              have more : slot + 1 < state.clients.size := by
                by_contra none
                rw [State.drop_elements_eq_nil_iff.mpr (by omega)] at listed
                cases listed
              obtain ⟨first, others⟩ := List.nodup_cons.mp distinct
              have unseen := (List.nodup_cons.mp others).1
              rw [readsEach_of_skipped watched]
              by_cases missed : state.watchedSockets skipped = true
              · refine iff_of_false (fun both => ?_) (by rw [missed]; simp)
                obtain ⟨same, stays⟩ := both
                have member : skipped ∈ visits.filterMap Visit.descriptor := by
                  refine same.mem_iff.mpr ?_
                  rw [List.filter_cons_of_pos missed]
                  exact .head _
                have reads := (steps.reads_sublist kept stays).subset member
                exact absurd (tail ▸ reads) unseen
              · have unchanged : ∀ fd ∈ rest, Function.update state.watchedSockets
                    (state.element slot) false fd = state.watchedSockets fd := by
                  intro fd member
                  refine Function.update_of_ne ?_ _ _
                  rintro rfl
                  exact first (.tail _ member)
                rw [List.filter_cons_of_neg missed] at answered ⊢
                have after := @ih true kept (by change slot + 1 ≤ shorter.size; omega)
                  (by change shorter.size ≤ _; omega)
                  (iff_of_true rfl (by change shorter.size < _; omega))
                simp only [tail, List.filter_congr unchanged, ReadsEach.congr unchanged] at after
                rw [after (Nat.le_of_succ_le_succ answered), sizes,
                  and_iff_right (eq_false_of_ne_true missed)]
      | wrote watched remaining | failed watched remaining =>
          have continues := mt (breaks watched remaining (by intro same; cases same)).mp
            (fun killed => killed rfl)
          have within : state.clients.size ≤ slot + 1 + count := by omega
          have rest : shifted = true ↔ state.clients.size < slot + 1 + count :=
            late.trans (by omega)
          rw [remaining, List.filter_cons_of_pos watched] at answered
          rw [remaining, List.filter_cons_of_pos watched,
            readsEach_of_served watched _ _ _ (by intro same; cases same), if_neg continues,
            ← ih kept inside within rest (Nat.le_of_succ_le_succ answered)]
          exact and_congr_left fun _ => List.perm_cons _
  | @stopped count slot state final visit control step ends =>
      rcases Nat.lt_or_ge slot state.clients.size with inside | behind
      rotate_left
      · exact (Steps.stopped step ends).readsEach_of_behind behind late
      have here : visit.slot < visit.size := by rwa [step.slot_eq, step.size_eq]
      rw [State.drop_elements inside] at answered ⊢
      rw [List.forall_mem_cons, and_iff_right here, and_iff_left (by simp)]
      have breaks watched {answer answers} :=
        @Step.breaks_iff _ _ _ _ _ _ _ step invariant watched answer answers
      cases step with
      | skipped | left => exact absurd rfl ends
      | pending watched remaining =>
          rw [remaining, List.filter_cons_of_pos watched] at answered
          simp at answered
      | wrote watched remaining | failed watched remaining =>
          have killed := (breaks watched remaining (by intro same; cases same)).mpr ends
          rw [remaining, List.filter_cons_of_pos watched,
            readsEach_of_served watched _ _ _ (by intro same; cases same), if_pos killed]
          change [state.element slot].Perm _ ↔ _
          rw [List.perm_cons, List.nil_perm, List.filter_eq_nil_iff]
          exact forall₂_congr fun fd _ => by rw [Bool.not_eq_true]

end Loop

/-!
## The round
-/

/-- When every watched client has an answer, the loop reads each of them once, stays
inside the vector and reads nobody else exactly under the condition. -/
theorem checkConnectedClients_readsOnce_iff {beyond : List UInt8} {clients : SlotVector Nat}
    (nodup : clients.elements.Nodup) (watchedSockets : FdSet) {answers : List Answer}
    (answered : (clients.elements.filter watchedSockets).length ≤ answers.length) :
    ((∀ fd, ((checkConnectedClients beyond clients watchedSockets answers).1.filterMap
          Visit.descriptor).count fd =
        if fd ∈ clients.elements ∧ watchedSockets fd = true then 1 else 0) ∧
      ∀ visit ∈ (checkConnectedClients beyond clients watchedSockets answers).1,
        visit.slot < visit.size) ↔
      ReadsEach watchedSockets false clients.size clients.elements answers := by
  have invariant := invariant_start nodup watchedSockets answers
  have steps := invariant.clientLoop (Nat.zero_add _) beyond
  have once (fd : Nat) := (nodup.filter watchedSockets).count (a := fd)
  simp only [List.mem_filter] at once
  have loop := @Steps.readsEach_iff _ _ _ _ _ _ _ _ false steps invariant (Nat.zero_le _)
    (Nat.le_of_eq (Nat.zero_add _).symm)
    (iff_of_false Bool.false_ne_true (by rw [Nat.zero_add]; exact Nat.lt_irrefl _)) answered
  simp only [← once]
  rw [← List.perm_iff_count]
  exact loop

theorem readsOnce_iff {server : Server} {input : Input} {result : Result}
    (accept : result.accept ≠ none →
      input.select.reported server.listenSocketDescriptor = true) :
    ReadsOnce server input result ↔
      (∀ fd, result.reads.count fd =
        if fd ∈ server.clients.elements ∧ input.select.reported fd = true then 1 else 0) ∧
      ∀ visit ∈ result.visits, visit.slot < visit.size := by
  constructor
  · intro once
    exact ⟨once.reads, once.inside⟩
  · intro looped
    obtain ⟨reads, inside⟩ := looped
    exact ⟨accept, reads, inside⟩

theorem readsOnce_iff_of_no_visits {server : Server} {input : Input} {result : Result}
    (accept : result.accept ≠ none →
      input.select.reported server.listenSocketDescriptor = true)
    (nobody : result.visits = []) :
    ReadsOnce server input result ↔
      ∀ fd ∈ server.clients.elements, input.select.reported fd = false := by
  have reads (fd : Nat) : result.reads.count fd = 0 := by
    rw [Result.reads, nobody]
    rfl
  constructor
  · intro once fd member
    have missed := once.reads fd
    rw [reads] at missed
    by_contra ready
    rw [if_pos ⟨member, eq_true_of_ne_false ready⟩] at missed
    exact absurd missed (by decide)
  · intro unready
    refine ⟨accept, fun fd => ?_, fun visit member => ?_⟩
    · rw [reads, if_neg]
      intro both
      obtain ⟨member, ready⟩ := both
      rw [unready fd member] at ready
      cases ready
    · rw [nobody] at member
      cases member

section Ready

variable {server : Server} {reported : FdSet}

theorem selected_watch_eq_ready (reported : FdSet) {fd : Nat}
    (client : fd ≠ server.listenSocketDescriptor) :
    selected (watch server) reported fd = server.ready reported fd := by
  rw [Bool.eq_iff_iff, selected_watch_iff, Server.ready, Bool.and_eq_true, decide_eq_true_eq,
    or_iff_right client]

theorem loop_readsOnce_iff {clients : SlotVector Nat} (valid : Server.Valid { server with clients })
    (kept : server.clients.elements.Sublist clients.elements) (beyond : List UInt8)
    {answers : List Answer}
    (answered : (server.clients.elements.filter reported).length ≤ answers.length) :
    ((∀ fd, ((checkConnectedClients beyond clients (selected (watch server) reported)
          answers).1.filterMap Visit.descriptor).count fd =
        if fd ∈ server.clients.elements ∧ reported fd = true then 1 else 0) ∧
      ∀ visit ∈ (checkConnectedClients beyond clients (selected (watch server) reported) answers).1,
        visit.slot < visit.size) ↔
      ReadsEach (server.ready reported) false clients.size clients.elements answers := by
  have client : ∀ fd ∈ clients.elements, fd ≠ server.listenSocketDescriptor :=
    fun fd member same => valid.notListening (same ▸ member)
  have ready (fd : Nat) : fd ∈ server.clients.elements ∧ reported fd = true ↔
      fd ∈ clients.elements ∧ selected (watch server) reported fd = true := by
    rw [selected_watch_iff]
    constructor
    · intro both
      obtain ⟨member, isReported⟩ := both
      exact ⟨kept.subset member, .inr member, isReported⟩
    · intro left
      obtain ⟨member, connected, isReported⟩ := left
      exact ⟨connected.resolve_left (client fd member), isReported⟩
  have same := ReadsEach.congr
    (fun fd member => selected_watch_eq_ready reported (client fd member)) false clients.size
    answers
  have nodup : server.clients.elements.Nodup := valid.nodup.sublist (kept)
  have permuted : (server.clients.elements.filter reported).Perm
      (clients.elements.filter (selected (watch server) reported)) := by
    refine (List.perm_ext_iff_of_nodup (nodup.filter _) (valid.nodup.filter _)).mpr fun fd => ?_
    rw [List.mem_filter, List.mem_filter, ready]
  simp only [ready]
  rw [← same]
  exact checkConnectedClients_readsOnce_iff valid.nodup _ (permuted.length_eq ▸ answered)

theorem check_readsOnce_iff (valid : server.Valid) {input : Input} (fresh : Fresh server input)
    (answered : (server.clients.elements.filter reported).length ≤ input.answers.length)
    (select : input.select = .ready reported) :
    ReadsOnce server input (check server (selected (watch server) reported) input) ↔
      Steady server input := by
  have connects := checkForNewConnection_connects server (selected (watch server) reported) input
  have kept := connects.valid valid fresh
  rw [check, Steady, select]
  generalize checkForNewConnection server (selected (watch server) reported) input = connection at *
  cases connects with
  | unreported listening =>
      rw [selected_watch_listening] at listening
      simp only [listening, Bool.false_eq_true, if_false]
      rw [readsOnce_iff (fun accepts => absurd rfl accepts), select]
      exact loop_readsOnce_iff (kept _ rfl) (.refl _) input.beyond answered
  | failed listening accepted =>
      rw [selected_watch_listening] at listening
      simp only [listening, if_true, accepted]
      rw [readsOnce_iff_of_no_visits (fun _ => by rw [select]; exact listening) rfl, select]
      rfl
  | unwelcomed listening accepted welcomed =>
      rw [selected_watch_listening] at listening
      simp only [listening, if_true, accepted, welcomed]
      rw [readsOnce_iff_of_no_visits (fun _ => by rw [select]; exact listening) rfl, select]
      rfl
  | @joined new_socket listening accepted welcomed =>
      rw [selected_watch_listening] at listening
      have loop := loop_readsOnce_iff (kept _ rfl)
        (by rw [SlotVector.elements_pushBack]; exact List.sublist_append_left _ _) input.beyond answered
      rw [SlotVector.elements_pushBack] at loop
      simp only [listening, if_true, accepted, welcomed]
      rw [readsOnce_iff (fun _ => by rw [select]; exact listening), select]
      exact loop

end Ready

/-- When `read` returns for every client that is reported, each of them is read once
and nothing else happens exactly in the steady rounds. -/
theorem round_readsOnce_iff {server : Server} (valid : server.Valid) {input : Input}
    (fresh : Fresh server input)
    (answered : (server.clients.elements.filter input.select.reported).length ≤
      input.answers.length) :
    ReadsOnce server input (round server input) ↔ Steady server input := by
  rw [round]
  cases select : input.select with
  | ready reported =>
      rw [select] at answered
      exact check_readsOnce_iff valid fresh answered select
  | interrupted =>
      refine iff_of_false (fun once => ?_) (by rw [Steady, select]; exact id)
      have accepts : (check server (watch server).1 input).accept ≠ none := by
        have connects := checkForNewConnection_connects server (watch server).1 input
        rw [check]
        generalize checkForNewConnection server (watch server).1 input = connection at *
        cases connects with
        | unreported listening =>
            rw [watch_listening] at listening
            cases listening
        | failed | unwelcomed | joined => exact Option.some_ne_none _
      have reported := once.accept accepts
      rw [select] at reported
      cases reported
  | failed =>
      refine iff_of_true ?_ (by rw [Steady, select]; trivial)
      rw [readsOnce_iff_of_no_visits (fun accepts => absurd rfl accepts) rfl, select]
      exact fun _ _ => rfl

theorem round_readsOnce_iff_leaving :
    ReadsOnce crowd (reporting [4, 6] [.data (ascii "hi"), .finished])
      (round crowd (reporting [4, 6] [.data (ascii "hi"), .finished])) := by
  refine (round_readsOnce_iff crowd_reachable.valid ?_ (by decide)).mpr ?_
  · rintro _ ⟨⟩
  · rfl

/-- Client 4 leaves: client 5 is skipped, and client 6 is read twice, the second time
through a slot behind the end. -/
theorem client_skipped :
    (round crowd (reporting [4, 5, 6]
        [.finished, .data (ascii "a"), .data (ascii "b")])).reads = [4, 6, 6] ∧
      (round crowd (reporting [4, 5, 6]
        [.finished, .data (ascii "a"), .data (ascii "b")])).visits.map
          (fun visit => (visit.slot, visit.size)) = [(0, 3), (1, 2), (2, 2)] ∧
      ¬ ReadsOnce crowd (reporting [4, 5, 6] [.finished, .data (ascii "a"), .data (ascii "b")])
        (round crowd (reporting [4, 5, 6]
          [.finished, .data (ascii "a"), .data (ascii "b")])) := by
  have reads : (round crowd (reporting [4, 5, 6]
      [.finished, .data (ascii "a"), .data (ascii "b")])).reads = [4, 6, 6] := by decide
  refine ⟨reads, by decide, fun once => ?_⟩
  have five := once.reads 5
  rw [reads] at five
  exact absurd five (by decide)

end NetworkServices.Chat
