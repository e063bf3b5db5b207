import NetworkServices.Chat.ServerProperties
import Mathlib.Data.List.Count

/-! What the clients are sent. All the clients served in one round share a buffer
that is cleared once, so a message is followed by the rest of a longer one that
somebody else sent earlier in the round. -/

set_option autoImplicit false

namespace NetworkServices.Chat

def Visit.sentTo (visit : Visit) (el : Nat) : List CString :=
  (visit.sent.filter (·.1 = el)).map (·.2)

/-- The message read in a visit, and nothing else, is sent once to every other
connected client; without a message nothing is sent. -/
def Visit.Delivers (connected : List Nat) (visit : Visit) : Prop :=
  match visit.read with
  | some (element, some (.data bytes)) =>
      ∀ el, visit.sentTo el =
        if el ∈ connected ∧ el ≠ element then [header element ++ bytes] else []
  | _ => visit.sent = []

/-- The clients connected behind a visit. -/
def Visit.remaining (visit : Visit) (connected : List Nat) : List Nat :=
  match visit.closed with
  | some element => connected.erase element
  | none => connected

/-- The same of every visit, with the clients connected at that time. -/
def DeliveredFrom : List Nat → List Visit → Prop
  | _, [] => True
  | connected, visit :: rest =>
      visit.Delivers connected ∧ DeliveredFrom (visit.remaining connected) rest

def Delivered (server : Server) (result : Result) : Prop :=
  DeliveredFrom (server.clients.elements ++ result.accept.join.toList) result.visits

/-- The condition on the answers, in the order in which they are read, for a number of
connected clients and the length of the longest message before. Nobody else is
connected; or no read fails, no message is shorter than an earlier one and only the last
of the others may be found gone. One that fills the buffer needs a zero in the memory
behind it. -/
def Undisturbed (beyond : List UInt8) : Nat → Nat → List Answer → Prop
  | _, _, [] => True
  | count, longest, ⟨.finished, _⟩ :: answers => Undisturbed beyond (count - 1) longest answers
  | count, longest, ⟨.failed, _⟩ :: answers => count ≤ 1 ∧ Undisturbed beyond count longest answers
  | count, longest, ⟨.data bytes, broken⟩ :: answers =>
      (count ≤ 1 ∨
        longest ≤ bytes.length ∧ (bytes.length = 256 → cString beyond = []) ∧
          ∀ call ∈ broken, count ≤ call + 2) ∧
        Undisturbed beyond count (max longest bytes.length) answers

structure Plain (bytes : List UInt8) : Prop where
  positive : 1 ≤ bytes.length
  fits : bytes.length ≤ 256
  nulFree : 0 ∉ bytes

/-!
## One broadcast
-/

section Broadcast

variable {clients : SlotVector Nat} {element : Nat}

theorem others_eq_nil_iff (nodup : clients.elements.Nodup)
    (member : element ∈ clients.elements) :
    clients.elements.filter (· ≠ element) = [] ↔ clients.size ≤ 1 := by
  have size := length_others nodup member
  rw [← List.length_eq_zero_iff]
  omega

/-- The clients that the calls of `send` are for. -/
def called (others : List Nat) : Option Nat → List Nat
  | none => others
  | some call => others.take (call + 1)

theorem broadcast_sent (clients : SlotVector Nat) (element : Nat) (text : CString)
    (broken : Option Nat) :
    (broadcast clients element text broken).1 =
      (called (clients.elements.filter (· ≠ element)) broken).map
        fun el => (el, header element ++ text) := by
  cases broken with
  | none => rfl
  | some call => exact List.map_take.symm

theorem called_eq_nil_iff (others : List Nat) (broken : Option Nat) :
    called others broken = [] ↔ others = [] := by
  cases broken with
  | none => exact .rfl
  | some call => rw [called, List.take_eq_nil_iff, or_iff_right (Nat.succ_ne_zero call)]

theorem called_eq_iff (others : List Nat) (broken : Option Nat) :
    called others broken = others ↔ ∀ call ∈ broken, others.length ≤ call + 1 := by
  cases broken with
  | none => simp [called]
  | some call =>
      rw [called]
      simp only [Option.mem_some_iff, forall_eq']
      constructor
      · intro whole
        have length := congrArg List.length whole
        rw [List.length_take] at length
        omega
      · exact List.take_of_length_le

theorem broadcast_eq_nil_iff (nodup : clients.elements.Nodup)
    (member : element ∈ clients.elements) (text : CString) (broken : Option Nat) :
    (broadcast clients element text broken).1 = [] ↔ clients.size ≤ 1 := by
  rw [broadcast_sent, List.map_eq_nil_iff, called_eq_nil_iff, others_eq_nil_iff nodup member]

theorem called_sublist (others : List Nat) (broken : Option Nat) :
    (called others broken).Sublist others := by
  cases broken with
  | none => exact .refl _
  | some call => exact List.take_sublist _ _

theorem sentTo_map {listed : List Nat} (nodup : listed.Nodup) (text : CString) (el : Nat) :
    ((listed.map fun el => (el, text)).filter (·.1 = el)).map (·.2) =
      if el ∈ listed then [text] else [] := by
  have one : listed.filter (· = el) = if el ∈ listed then [el] else [] := by
    rw [List.filter_eq, nodup.count]
    split <;> rfl
  rw [List.filter_map, List.map_map]
  change (listed.filter (· = el)).map _ = _
  rw [one]
  split <;> rfl

/-- Every other client is sent the message as it was read. -/
theorem broadcast_right_iff (nodup : clients.elements.Nodup)
    (member : element ∈ clients.elements) (text bytes : CString) (broken : Option Nat) :
    (∀ el, ((broadcast clients element text broken).1.filter (·.1 = el)).map (·.2) =
        if el ∈ clients.elements ∧ el ≠ element then [header element ++ bytes] else []) ↔
      clients.size ≤ 1 ∨ text = bytes ∧ ∀ call ∈ broken, clients.size ≤ call + 2 := by
  have size := length_others nodup member
  have bounds : (∀ call ∈ broken, clients.size ≤ call + 2) ↔
      called (clients.elements.filter (· ≠ element)) broken =
        clients.elements.filter (· ≠ element) := by
    rw [called_eq_iff, ← size]
    exact forall₂_congr fun call _ => Nat.add_le_add_iff_right
  have other (el : Nat) : el ∈ clients.elements ∧ el ≠ element ↔
      el ∈ clients.elements.filter (· ≠ element) := by
    rw [List.mem_filter, decide_eq_true_eq]
  have distinct := nodup.filter (· ≠ element)
  rw [bounds, broadcast_sent, ← others_eq_nil_iff nodup member]
  simp only [other]
  generalize clients.elements.filter (· ≠ element) = others at distinct ⊢
  have reached := called_sublist others broken
  simp only [sentTo_map (distinct.sublist reached)]
  constructor
  · intro same
    have included (el : Nat) (listed : el ∈ others) :
        el ∈ called others broken ∧ text = bytes := by
      have sent := same el
      rw [if_pos listed] at sent
      by_cases calls : el ∈ called others broken
      · rw [if_pos calls] at sent
        exact ⟨calls, List.append_cancel_left (List.cons.inj sent).1⟩
      · rw [if_neg calls] at sent
        cases sent
    cases listed : others with
    | nil => exact .inl rfl
    | cons first rest =>
        have all := reached.eq_of_length_le
          (distinct.length_le_of_subset fun el listed => (included el listed).1)
        rw [← listed]
        exact .inr ⟨(included first (listed ▸ .head _)).2, all⟩
  · rintro (rfl | ⟨rfl, all⟩) el
    · rw [(called_eq_nil_iff [] broken).mpr rfl]
      rfl
    · rw [all]

end Broadcast

/-!
## The loop and the round
-/

theorem overlay_max_length (message remembered : CString) :
    (overlay message remembered).length = max remembered.length message.length := by
  rw [overlay, List.length_append, List.length_drop]
  omega

/-- An answer that has been taken is the first of those that returned. -/
private theorem returned_cons {answer : Answer} {answers returned unread : List Answer}
    (split : answer :: answers = returned ++ unread) (taken : unread.length ≤ answers.length) :
    ∃ later, returned = answer :: later ∧ answers = later ++ unread := by
  cases returned with
  | nil =>
      have lengths := congrArg List.length split
      rw [List.nil_append, List.length_cons] at lengths
      omega
  | cons first later =>
      obtain ⟨same, rest⟩ := List.cons.inj split
      exact ⟨later, congrArg (· :: later) same.symm, rest⟩

theorem Step.remaining {beyond : List UInt8} {slot : Nat} {state next : State} {visit : Visit}
    {control : Control} (step : Step beyond state slot visit control next) :
    visit.remaining state.clients.elements = next.clients.elements := by
  cases step with
  | skipped | pending | wrote | failed => rfl
  | left watched taken member erased => exact erased.elements.symm

/-- One visit takes at most the first of the answers. It delivers what it has to
exactly if the condition then depends on the later ones only. -/
theorem Step.delivers_iff {beyond : List UInt8} {whole slot : Nat} {state next : State}
    {visit : Visit} {control : Control} {remembered : CString} {returned unread : List Answer}
    (step : Step beyond state slot visit control next)
    (invariant : Invariant whole state) (holds : state.messageBuffer.Holds remembered)
    (plain : ∀ bytes broken, ⟨.data bytes, broken⟩ ∈ returned → Plain bytes)
    (split : state.answers = returned ++ unread) (taken : unread.length ≤ next.answers.length) :
    ∃ later known, next.answers = later ++ unread ∧ next.messageBuffer.Holds known ∧
      (∀ bytes broken, ⟨.data bytes, broken⟩ ∈ later → Plain bytes) ∧
      (visit.Delivers state.clients.elements ∧
          Undisturbed beyond next.clients.size known.length later ↔
        Undisturbed beyond state.clients.size remembered.length returned) := by
  cases step with
  | skipped | pending =>
      exact ⟨returned, remembered, split, holds, plain, and_iff_right rfl⟩
  | left watched remaining member erased =>
      rw [remaining] at split
      obtain ⟨later, rfl, others⟩ := returned_cons split taken
      refine ⟨later, remembered, others, holds,
        fun bytes broken member => plain bytes broken (.tail _ member), ?_⟩
      rw [Undisturbed, erased.size]
      exact and_iff_right rfl
  | wrote watched remaining member sent =>
      rw [remaining] at split
      obtain ⟨later, rfl, others⟩ := returned_cons split taken
      have message := plain _ _ (.head _)
      refine ⟨later, _, others, holds.receive message.fits message.nulFree,
        fun bytes broken member => plain bytes broken (.tail _ member), ?_⟩
      rw [overlay_max_length, Undisturbed, ← and_assoc (a := remembered.length ≤ _),
        ← holds.text_receive_eq_iff message.fits message.nulFree,
        ← broadcast_right_iff invariant.nodup member, sent]
      exact .rfl
  | failed watched remaining member sent =>
      rw [remaining] at split
      obtain ⟨later, rfl, others⟩ := returned_cons split taken
      refine ⟨later, remembered, others, holds,
        fun bytes broken member => plain bytes broken (.tail _ member), ?_⟩
      rw [Undisturbed, ← broadcast_eq_nil_iff invariant.nodup member, sent]
      exact .rfl

theorem Steps.delivered_iff {beyond : List UInt8} {whole count slot : Nat}
    {state final : State} {visits : List Visit} {control : Control} {remembered : CString}
    {returned : List Answer}
    (steps : Steps beyond count slot state visits control final)
    (invariant : Invariant whole state) (holds : state.messageBuffer.Holds remembered)
    (plain : ∀ bytes broken, ⟨.data bytes, broken⟩ ∈ returned → Plain bytes)
    (split : state.answers = returned ++ final.answers) :
    DeliveredFrom state.clients.elements visits ↔
      Undisturbed beyond state.clients.size remembered.length returned := by
  induction steps generalizing remembered returned with
  | done slot state =>
      rw [List.self_eq_append_left.mp split]
      exact iff_of_true trivial trivial
  | next step steps ih =>
      obtain ⟨later, known, rest, still, fine, here⟩ :=
        step.delivers_iff invariant holds plain split steps.answers_suffix.length_le
      rw [← here, ← ih (invariant.step step) still fine rest, ← step.remaining]
      exact .rfl
  | stopped step =>
      obtain ⟨later, known, rest, still, fine, here⟩ :=
        step.delivers_iff invariant holds plain split (Nat.le_refl _)
      -- nothing is visited any more, and no later answer was returned
      rw [List.self_eq_append_left.mp rest] at here
      exact here

def Server.listening (server : Server) : Select → Bool
  | .ready reported => reported server.listenSocketDescriptor
  | .interrupted => true
  | .failed => false

def Server.served (server : Server) (input : Input) : Nat :=
  server.clients.size +
    if server.listening input.select then input.accepted.toList.length else 0

theorem checkConnectedClients_delivered_iff {beyond : List UInt8} {clients : SlotVector Nat}
    (nodup : clients.elements.Nodup) {answers returned : List Answer}
    (plain : ∀ bytes broken, ⟨.data bytes, broken⟩ ∈ returned → Plain bytes) (watchedSockets : FdSet)
    (split : answers =
      returned ++ (checkConnectedClients beyond clients watchedSockets answers).2.2.answers) :
    DeliveredFrom clients.elements
        (checkConnectedClients beyond clients watchedSockets answers).1 ↔
      Undisturbed beyond clients.size 0 returned := by
  have invariant := invariant_start nodup watchedSockets answers
  have steps := invariant.clientLoop (Nat.zero_add _) beyond
  exact steps.delivered_iff invariant Buffer.holds_zeroed plain split

theorem check_delivered_iff {server : Server} (valid : server.Valid) {input : Input}
    (fresh : Fresh server input) {returned : List Answer}
    (plain : ∀ bytes broken, ⟨.data bytes, broken⟩ ∈ returned → Plain bytes) (watchedSockets : FdSet)
    (split : input.answers = returned ++ (check server watchedSockets input).unread) :
    Delivered server (check server watchedSockets input) ↔
      Undisturbed input.beyond (server.clients.size +
        if watchedSockets server.listenSocketDescriptor then input.accepted.toList.length else 0)
        0 returned := by
  have connects := checkForNewConnection_connects server watchedSockets input
  have kept := connects.valid valid fresh
  rw [check] at split ⊢
  generalize checkForNewConnection server watchedSockets input = connection at *
  cases connects with
  | unreported listening =>
      rw [listening, Delivered]
      simp only [Option.join_none, Option.toList_none, List.append_nil]
      exact checkConnectedClients_delivered_iff valid.nodup plain watchedSockets split
  | failed listening accepted =>
      rw [List.self_eq_append_left.mp split]
      exact iff_of_true trivial trivial
  | unwelcomed listening accepted welcomed =>
      rw [List.self_eq_append_left.mp split]
      exact iff_of_true trivial trivial
  | @joined new_socket listening accepted welcomed =>
      have loop := checkConnectedClients_delivered_iff (kept _ rfl).nodup plain watchedSockets
        split
      rw [SlotVector.elements_pushBack] at loop
      rw [listening, accepted]
      exact loop

/-- In a round from a reachable state, every message reaches the other clients as it
was read exactly when the answers that `read` returned do not disturb each other. -/
theorem round_delivered_iff {listenSocketDescriptor : Nat} {server : Server}
    (reachable : Reachable listenSocketDescriptor server) {input : Input}
    (fresh : Fresh server input) {returned : List Answer}
    (split : input.answers = returned ++ (round server input).unread)
    (plain : ∀ bytes broken, ⟨.data bytes, broken⟩ ∈ returned → Plain bytes) :
    Delivered server (round server input) ↔
      Undisturbed input.beyond (server.served input) 0 returned := by
  have valid := reachable.valid
  rw [round] at split ⊢
  rw [Server.served]
  cases select : input.select with
  | ready reported =>
      rw [select] at split
      rw [check_delivered_iff valid fresh plain _ split, selected_watch_listening]
      rfl
  | interrupted =>
      rw [select] at split
      rw [check_delivered_iff valid fresh plain _ split, watch_listening]
      rfl
  | failed =>
      rw [select] at split
      rw [List.self_eq_append_left.mp split]
      exact iff_of_true trivial trivial

theorem round_delivered_iff_growing :
    Delivered crowd
      (round crowd (reporting [4, 5] [.data (ascii "hi"), .data (ascii "hello")])) := by
  have split : (reporting [4, 5] [.data (ascii "hi"), .data (ascii "hello")]).answers =
      [⟨.data (ascii "hi"), none⟩, ⟨.data (ascii "hello"), none⟩] ++
        (round crowd (reporting [4, 5] [.data (ascii "hi"), .data (ascii "hello")])).unread := by
    decide
  refine (round_delivered_iff crowd_reachable ?_ split ?_).mpr ?_
  · rintro _ ⟨⟩
  · intro bytes broken member
    simp only [List.mem_cons, List.not_mem_nil, or_false, Answer.mk.injEq,
      ReadResult.data.injEq] at member
    rcases member with ⟨rfl, _⟩ | ⟨rfl, _⟩ <;> exact ⟨by decide, by decide, by decide⟩
  · exact ⟨.inr ⟨by decide, by decide, by decide⟩, .inr ⟨by decide, by decide, by decide⟩, trivial⟩

/-- Behind the message of client 4, that of client 5 reaches the others with the rest
of the longer one. -/
theorem message_behind_longer_message :
    (round crowd (reporting [4, 5] [.data (ascii "hello"), .data (ascii "y")])).visits.map
        Visit.sent =
      [[(5, ascii "<client 4>: hello"), (6, ascii "<client 4>: hello")],
        [(4, ascii "<client 5>: yello"), (6, ascii "<client 5>: yello")], []] ∧
      ¬ Delivered crowd
        (round crowd (reporting [4, 5] [.data (ascii "hello"), .data (ascii "y")])) := by
  have visits :
      (round crowd (reporting [4, 5] [.data (ascii "hello"), .data (ascii "y")])).visits =
      [⟨0, 3, some (4, some (.data (ascii "hello"))),
          [(5, ascii "<client 4>: hello"), (6, ascii "<client 4>: hello")], none⟩,
        ⟨1, 3, some (5, some (.data (ascii "y"))),
          [(4, ascii "<client 5>: yello"), (6, ascii "<client 5>: yello")], none⟩,
        ⟨2, 3, none, [], none⟩] := by decide
  refine ⟨by rw [visits]; rfl, fun delivered => ?_⟩
  rw [Delivered, visits] at delivered
  obtain ⟨_, second, _⟩ := delivered
  exact absurd (second 6) (by decide)

end NetworkServices.Chat
