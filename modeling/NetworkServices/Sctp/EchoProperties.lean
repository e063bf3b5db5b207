import NetworkServices.Sctp.Echo
import Mathlib.Algebra.BigOperators.Group.Finset.Basic
import Mathlib.Algebra.Order.BigOperators.Group.Finset
import Mathlib.Logic.Relation

/-! Every message comes back once. In every state of every run a client has sent what
came back to it and at most one message more, and that one is in exactly one place on
the way to the server and back. -/

set_option autoImplicit false

namespace NetworkServices.Sctp

variable {ι : Type}

/-- The payload of a message that a client sends: some bytes without a NUL, short
enough for either buffer. -/
structure Sendable (payload : List UInt8) : Prop where
  nonempty : payload ≠ []
  short : payload.length < 256
  nulFree : 0 ∉ payload

/-!
## One process
-/

theorem Client.send_some {c : ι} {client next : Client ι} {message : Message ι}
    (sends : client.send c = some (next, message)) :
    ∃ chunk stdin, fgets 256 client.stdin = some (chunk, stdin) ∧
      ((Buffer.zeroed 256).receive chunk).text [] ≠ [newline] ∧
      message = ⟨client.locals.messageStream, ((Buffer.zeroed 256).receive chunk).text [], c,
        client.sent.length⟩ ∧
      next = ⟨stdin, client.locals.sent, .waiting, client.sent ++ [message.content],
        client.received⟩ := by
  unfold Client.send at sends
  cases read : fgets 256 client.stdin with
  | none =>
      rw [read] at sends
      cases sends
  | some result =>
      obtain ⟨chunk, stdin⟩ := result
      rw [read] at sends
      simp only at sends
      split at sends
      · cases sends
      · next other =>
          cases sends
          exact ⟨chunk, stdin, rfl, other, rfl, rfl⟩

theorem Client.send_stdin_lt {c : ι} {client next : Client ι} {message : Message ι}
    (sends : client.send c = some (next, message)) :
    next.stdin.length < client.stdin.length := by
  obtain ⟨chunk, stdin, read, -, -, rfl⟩ := Client.send_some sends
  obtain ⟨whole, nonempty, -⟩ := fgets_spec (by decide) read
  have positive := List.length_pos_iff.mpr nonempty
  rw [← whole, List.length_append]
  exact Nat.lt_add_of_pos_left positive

/-- What a client has to send: the chunks that `fgets` makes of its input, up to a line
that is empty. -/
def messages (stdin : List UInt8) : List (List UInt8) :=
  match read : fgets 256 stdin with
  | none => []
  | some (chunk, rest) => if chunk = [newline] then [] else chunk :: messages rest
termination_by stdin.length
decreasing_by
  obtain ⟨whole, nonempty, -⟩ := fgets_spec (by decide) read
  have positive := List.length_pos_iff.mpr nonempty
  rw [← whole, List.length_append]
  exact Nat.lt_add_of_pos_left positive

theorem messages_of_none {stdin : List UInt8} (read : fgets 256 stdin = none) :
    messages stdin = [] := by
  rw [messages]
  split
  · rfl
  · next found =>
      rw [read] at found
      cases found

theorem messages_of_some {stdin chunk rest : List UInt8}
    (read : fgets 256 stdin = some (chunk, rest)) :
    messages stdin = if chunk = [newline] then [] else chunk :: messages rest := by
  conv_lhs => rw [messages]
  split
  · next found =>
      rw [read] at found
      cases found
  · next found =>
      rw [read] at found
      cases found
      rfl

/-- A client that sends nothing has sent all. -/
theorem Client.send_none {c : ι} {client : Client ι} (typed : 0 ∉ client.stdin)
    (ends : client.send c = none) : messages client.stdin = [] := by
  unfold Client.send at ends
  cases read : fgets 256 client.stdin with
  | none => exact messages_of_none read
  | some result =>
      obtain ⟨chunk, stdin⟩ := result
      obtain ⟨whole, -, short⟩ := fgets_spec (by decide) read
      rw [← whole, List.mem_append, not_or] at typed
      rw [read] at ends
      simp only [Buffer.text_receive_zeroed short typed.1] at ends
      rw [messages_of_some read]
      split at ends
      · next empty => rw [if_pos empty]
      · cases ends

structure Sends (c : ι) (client next : Client ι) (message : Message ι) : Prop where
  first : messages client.stdin = message.payload :: messages next.stdin
  sendable : Sendable message.payload
  content : message.content = (c, client.sent.length, message.payload)
  sent : next.sent = client.sent ++ [message.content]
  received : next.received = client.received
  control : next.control = .waiting
  typed : 0 ∉ next.stdin

theorem Client.sends {c : ι} {client next : Client ι} {message : Message ι}
    (typed : 0 ∉ client.stdin) (sends : client.send c = some (next, message)) :
    Sends c client next message := by
  obtain ⟨chunk, stdin, read, other, rfl, rfl⟩ := Client.send_some sends
  obtain ⟨whole, nonempty, short⟩ := fgets_spec (by decide) read
  rw [← whole, List.mem_append, not_or] at typed
  obtain ⟨nulFree, left⟩ := typed
  rw [Buffer.text_receive_zeroed short nulFree] at other ⊢
  have first : messages client.stdin = chunk :: messages stdin := by
    rw [messages_of_some read, if_neg other]
  exact ⟨first, ⟨nonempty, short, nulFree⟩, rfl, rfl, rfl, rfl, left⟩

theorem recvmsg_text {message : Message ι} (sendable : Sendable message.payload) (c : ι)
    (beyond : List UInt8) : (recvmsg c message).buffer.text beyond = message.payload :=
  Buffer.text_receive_zeroed sendable.short sendable.nulFree beyond

/-!
## What is on the way
-/

section Transit

variable [DecidableEq ι]

def Server.held (server : Server ι) (c : ι) : List (Content ι) :=
  match server with
  | .receiving => []
  | .replying received =>
      if received.cliaddr = c then [(received.sender, received.number, received.buffer.text [])]
      else []

def World.transit (world : World ι) (c : ι) : List (Content ι) :=
  (world.toServer c).map Message.content ++ world.server.held c ++
    (world.toClient c).map Message.content

def payloads (contents : List (Content ι)) : List (List UInt8) :=
  contents.map fun content => content.2.2

/-- The books of one client: what it sent came back or is on the way, something is on
the way exactly while it waits, and with what it still sends that is all that was typed. -/
structure Balanced (c : ι) (stdin : List UInt8) (client : Client ι)
    (transit : List (Content ι)) : Prop where
  typed : 0 ∉ client.stdin
  whole : payloads client.sent ++ messages client.stdin = messages stdin
  finished : client.control = .closed → messages client.stdin = []
  sent : client.sent = client.received ++ transit
  single : transit.length = if client.control = .waiting then 1 else 0
  sendable : ∀ content ∈ transit, Sendable content.2.2
  own : ∀ (k : Nat) (content : Content ι), client.sent[k]? = some content →
    content.1 = c ∧ content.2.1 = k

structure Invariant (stdin : ι → List UInt8) (world : World ι) : Prop where
  balanced : ∀ c, Balanced c (stdin c) (world.client c) (world.transit c)
  /-- The text in the server's buffer does not run on behind it. -/
  held : ∀ received, world.server = .replying received →
    ∀ beyond, received.buffer.text beyond = received.buffer.text []

omit [DecidableEq ι] in
theorem Balanced.single_le {c : ι} {stdin : List UInt8} {client : Client ι}
    {transit : List (Content ι)} (balanced : Balanced c stdin client transit) : transit.length ≤ 1 := by
  rw [balanced.single]
  split <;> decide

theorem invariant_start {stdin : ι → List UInt8} (typed : ∀ c, 0 ∉ stdin c)
    (locals : ι → Locals) :
    Invariant stdin (.start fun c => .start (stdin c) (locals c)) := by
  refine ⟨fun c => ⟨typed c, rfl, fun closed => ?_, rfl, rfl, fun _ member => ?_,
    fun k content found => ?_⟩, ?_⟩
  · cases closed
  · exact absurd member List.not_mem_nil
  · cases found
  · intro received replying
    cases replying

/-!
## One step
-/

section Client

variable {c : ι} {stdin : List UInt8} {client next : Client ι}

omit [DecidableEq ι] in
theorem Balanced.send {message : Message ι} (balanced : Balanced c stdin client [])
    (sends : Sends c client next message) : Balanced c stdin next [message.content] := by
  have before := balanced.sent
  rw [List.append_nil] at before
  refine ⟨sends.typed, ?_, fun closed => ?_, ?_, ?_, fun content member => ?_,
    fun k content found => ?_⟩
  · rw [← balanced.whole, sends.first, sends.sent, payloads, List.map_append, List.append_assoc]
    rfl
  · rw [sends.control] at closed
    cases closed
  · rw [sends.sent, sends.received, before]
  · rw [sends.control]
    rfl
  · rw [List.mem_singleton.mp member, sends.content]
    exact sends.sendable
  · rw [sends.sent, List.getElem?_append] at found
    split at found
    · exact balanced.own k content found
    · rw [List.getElem?_singleton] at found
      split at found
      · cases found
        rw [sends.content]
        have last : client.sent.length = k := by omega
        exact ⟨rfl, last⟩
      · cases found

omit [DecidableEq ι] in
theorem Balanced.receive {reply : Message ι}
    (balanced : Balanced c stdin client [reply.content]) :
    Balanced c stdin (client.receive reply) [] := by
  have sendable := balanced.sendable _ (List.mem_singleton_self _)
  have positive : 0 < reply.payload.length := List.length_pos_iff.mpr sendable.nonempty
  rw [Client.receive, if_pos positive]
  refine ⟨balanced.typed, balanced.whole, fun closed => ?_, ?_, rfl, fun _ member => ?_,
    balanced.own⟩
  · cases closed
  · rw [List.append_nil]
    exact balanced.sent
  · exact absurd member List.not_mem_nil

omit [DecidableEq ι] in
theorem Balanced.close {transit : List (Content ι)} (balanced : Balanced c stdin client transit)
    (reading : client.control = .reading) (ends : client.send c = none) :
    Balanced c stdin { client with control := .closed } transit := by
  have finished := Client.send_none balanced.typed ends
  refine ⟨balanced.typed, balanced.whole, fun _ => finished, balanced.sent, ?_,
    balanced.sendable, balanced.own⟩
  rw [balanced.single, reading]
  rfl

end Client

section World

variable {stdin : ι → List UInt8} {world : World ι} {c : ι}

theorem Invariant.transit_eq_nil (invariant : Invariant stdin world)
    (reading : (world.client c).control = .reading) : world.transit c = [] := by
  have single := (invariant.balanced c).single
  rw [reading] at single
  exact List.eq_nil_of_length_eq_zero single

theorem transit_eq_nil_iff : world.transit c = [] ↔
    world.toServer c = [] ∧ world.server.held c = [] ∧ world.toClient c = [] := by
  simp only [World.transit, List.append_eq_nil_iff, List.map_eq_nil_iff, and_assoc]

theorem Invariant.toServer_taken (invariant : Invariant stdin world) {message : Message ι}
    {rest : List (Message ι)} (takes : Takes Message.stream (world.toServer c) message rest) :
    world.toServer c = [message] ∧ rest = [] ∧ world.server.held c = [] ∧
      world.toClient c = [] := by
  have single := (invariant.balanced c).single_le
  have taken := takes.length
  simp only [World.transit, List.length_append, List.length_map] at single
  obtain ⟨only, none_left⟩ := takes.of_length_le_one (by omega)
  exact ⟨only, none_left, List.eq_nil_of_length_eq_zero (by omega),
    List.eq_nil_of_length_eq_zero (by omega)⟩

theorem Invariant.toClient_taken (invariant : Invariant stdin world) {reply : Message ι}
    {rest : List (Message ι)} (takes : Takes Message.stream (world.toClient c) reply rest) :
    world.toServer c = [] ∧ world.server.held c = [] ∧ world.toClient c = [reply] ∧
      rest = [] := by
  have single := (invariant.balanced c).single_le
  have taken := takes.length
  simp only [World.transit, List.length_append, List.length_map] at single
  obtain ⟨only, none_left⟩ := takes.of_length_le_one (by omega)
  exact ⟨List.eq_nil_of_length_eq_zero (by omega), List.eq_nil_of_length_eq_zero (by omega),
    only, none_left⟩

theorem Invariant.toServer_eq_nil {received : Received ι} (invariant : Invariant stdin world)
    (replying : world.server = .replying received) :
    world.toServer received.cliaddr = [] ∧ world.toClient received.cliaddr = [] := by
  have single := (invariant.balanced received.cliaddr).single_le
  simp only [World.transit, Server.held, replying, if_true, List.length_append, List.length_map,
    List.length_singleton] at single
  exact ⟨List.eq_nil_of_length_eq_zero (by omega), List.eq_nil_of_length_eq_zero (by omega)⟩

theorem Invariant.transit_recvmsg (invariant : Invariant stdin world) {message : Message ι}
    {rest : List (Message ι)} (receiving : world.server = .receiving)
    (takes : Takes Message.stream (world.toServer c) message rest) (d : ι) :
    World.transit { world with
      server := .replying (recvmsg c message)
      toServer := Function.update world.toServer c rest } d = world.transit d := by
  obtain ⟨only, none_left, -, none_back⟩ := invariant.toServer_taken takes
  by_cases same : d = c
  · subst same
    have sendable : Sendable message.payload := by
      refine (invariant.balanced d).sendable message.content ?_
      rw [World.transit, only]
      exact List.mem_append_left _ (List.mem_append_left _ (List.mem_singleton_self _))
    have text := recvmsg_text sendable d []
    have address : (recvmsg d message).cliaddr = d := rfl
    simp only [World.transit, Server.held, receiving, Function.update_self, only, none_left,
      none_back, text, if_pos address]
    rfl
  · have other : (recvmsg c message).cliaddr ≠ d := Ne.symm same
    simp only [World.transit, Server.held, receiving, Function.update_of_ne same, if_neg other]

theorem Invariant.transit_reply (invariant : Invariant stdin world) {received : Received ι}
    (replying : world.server = .replying received) (wybor : Wybor) (beyond : List UInt8) (d : ι) :
    World.transit { world with
      server := .receiving
      toClient := Function.update world.toClient received.cliaddr
        (world.toClient received.cliaddr ++ [received.reply wybor beyond]) } d =
      world.transit d := by
  obtain ⟨none_sent, none_back⟩ := invariant.toServer_eq_nil replying
  by_cases same : d = received.cliaddr
  · subst same
    have text := invariant.held received replying beyond
    simp only [World.transit, Server.held, replying, Function.update_self, none_sent, none_back,
      if_true, ← text]
    rfl
  · have other : received.cliaddr ≠ d := Ne.symm same
    simp only [World.transit, Server.held, replying, Function.update_of_ne same, if_neg other]

theorem Invariant.step {wybor : Wybor} {next : World ι} (invariant : Invariant stdin world)
    (step : Step wybor world next) : Invariant stdin next := by
  cases step with
  | @send c client message reading sends =>
      refine ⟨fun d => ?_, invariant.held⟩
      by_cases same : d = c
      · subst same
        have before := invariant.balanced d
        have nothing := invariant.transit_eq_nil reading
        obtain ⟨none_sent, none_held, none_back⟩ := transit_eq_nil_iff.mp nothing
        rw [nothing] at before
        simp only [World.transit, Function.update_self, none_sent, none_held, none_back]
        exact before.send (Client.sends before.typed sends)
      · simp only [World.transit, Function.update_of_ne same]
        exact invariant.balanced d
  | @close c reading sends =>
      refine ⟨fun d => ?_, invariant.held⟩
      by_cases same : d = c
      · subst same
        simp only [Function.update_self]
        exact (invariant.balanced d).close reading sends
      · simp only [Function.update_of_ne same]
        exact invariant.balanced d
  | @recvmsg c message rest receiving takes =>
      obtain ⟨only, -⟩ := invariant.toServer_taken takes
      refine ⟨fun d => ?_, fun received replying beyond => ?_⟩
      · rw [invariant.transit_recvmsg receiving takes d]
        exact invariant.balanced d
      · have sendable : Sendable message.payload := by
          refine (invariant.balanced c).sendable message.content ?_
          rw [World.transit, only]
          exact List.mem_append_left _ (List.mem_append_left _ (List.mem_singleton_self _))
        cases replying
        rw [recvmsg_text sendable, recvmsg_text sendable]
  | @reply received beyond replying =>
      refine ⟨fun d => ?_, fun other impossible => ?_⟩
      · rw [invariant.transit_reply replying wybor beyond d]
        exact invariant.balanced d
      · cases impossible
  | @receive c reply rest waiting takes =>
      obtain ⟨none_sent, none_held, only, none_left⟩ := invariant.toClient_taken takes
      refine ⟨fun d => ?_, invariant.held⟩
      by_cases same : d = c
      · subst same
        have before := invariant.balanced d
        simp only [World.transit, none_sent, none_held, only] at before
        simp only [World.transit, Function.update_self, none_sent, none_held, none_left]
        exact before.receive
      · simp only [World.transit, Function.update_of_ne same]
        exact invariant.balanced d

end World

/-!
## Runs
-/

/-- What a client that was given an input has exchanged with the server. -/
structure Exchanged (c : ι) (stdin : List UInt8) (client : Client ι) : Prop where
  /-- It has sent the first chunks of its input, and all of them when it is done. -/
  typed : payloads client.sent <+: messages stdin
  finished : client.control = .closed → payloads client.sent = messages stdin
  answered : client.control ≠ .waiting → client.received = client.sent
  outstanding : client.control = .waiting →
    ∃ message, client.sent = client.received ++ [message]
  own : ∀ (k : Nat) (content : Content ι), client.sent[k]? = some content →
    content.1 = c ∧ content.2.1 = k

omit [DecidableEq ι] in
theorem Balanced.exchanged {c : ι} {stdin : List UInt8} {client : Client ι}
    {transit : List (Content ι)} (balanced : Balanced c stdin client transit) :
    Exchanged c stdin client := by
  have single := balanced.single
  refine ⟨⟨_, balanced.whole⟩, fun closed => ?_, fun idle => ?_, fun waiting => ?_, balanced.own⟩
  · rw [← balanced.whole, balanced.finished closed, List.append_nil]
  · rw [if_neg idle] at single
    rw [balanced.sent, List.eq_nil_of_length_eq_zero single, List.append_nil]
  · rw [if_pos waiting] at single
    obtain ⟨message, only⟩ := List.length_eq_one_iff.mp single
    exact ⟨message, only ▸ balanced.sent⟩

theorem Invariant.run {wybor : Wybor} {stdin : ι → List UInt8} {world next : World ι}
    (invariant : Invariant stdin world)
    (run : Relation.ReflTransGen (Step wybor) world next) : Invariant stdin next := by
  induction run with
  | refl => exact invariant
  | tail _ step ih => exact ih.step step

theorem Invariant.closed {wybor : Wybor} {stdin : ι → List UInt8} {world : World ι}
    (invariant : Invariant stdin world)
    (stuck : ∀ next, ¬ Step wybor world next) (c : ι) : (world.client c).control = .closed := by
  cases control : (world.client c).control with
  | closed => rfl
  | reading =>
      cases sends : (world.client c).send c with
      | none => exact absurd (.close control sends) (stuck _)
      | some result => exact absurd (.send control sends) (stuck _)
  | waiting =>
      cases server : world.server with
      | replying received => exact absurd (.reply [] server) (stuck _)
      | receiving =>
          have single := (invariant.balanced c).single
          rw [control, World.transit, server] at single
          cases asked : world.toServer c with
          | cons message rest =>
              exact absurd (.recvmsg server (asked ▸ takes_first _ message rest)) (stuck _)
          | nil =>
              cases answered : world.toClient c with
              | cons reply rest =>
                  exact absurd (.receive control (answered ▸ takes_first _ reply rest)) (stuck _)
              | nil =>
                  rw [asked, answered] at single
                  cases single

/-!
## Termination
-/

/-- The steps that a client's input and its messages on the way can still cause. -/
def World.weight (world : World ι) (c : ι) : Nat :=
  4 * (world.client c).stdin.length + (if (world.client c).control = .closed then 0 else 1) +
    3 * (world.toServer c).length + 2 * (world.server.held c).length +
    (world.toClient c).length

theorem Step.weight {wybor : Wybor} {world next : World ι} (step : Step wybor world next) :
    ∃ c, next.weight c < world.weight c ∧ ∀ d, d ≠ c → next.weight d = world.weight d := by
  cases step with
  | @send c client message reading sends =>
      refine ⟨c, ?_, fun d other => ?_⟩
      · have shorter := Client.send_stdin_lt sends
        obtain ⟨_, _, _, _, _, same⟩ := Client.send_some sends
        have waiting : client.control = .waiting := by rw [same]
        simp only [World.weight, Function.update_self, reading, waiting, List.length_append,
          List.length_singleton, reduceCtorEq, if_false]
        omega
      · simp only [World.weight, Function.update_of_ne other]
  | @close c reading sends =>
      refine ⟨c, ?_, fun d other => ?_⟩
      · simp only [World.weight, Function.update_self, reading, reduceCtorEq, if_false, if_true]
        omega
      · simp only [World.weight, Function.update_of_ne other]
  | @recvmsg c message rest receiving takes =>
      refine ⟨c, ?_, fun d other => ?_⟩
      · have taken := takes.length
        have address : (Sctp.recvmsg c message).cliaddr = c := rfl
        simp only [World.weight, Function.update_self, Server.held, receiving, if_pos address,
          List.length_singleton, List.length_nil]
        omega
      · have address : (Sctp.recvmsg c message).cliaddr ≠ d := Ne.symm other
        simp only [World.weight, Function.update_of_ne other, Server.held, receiving,
          if_neg address]
  | @reply received beyond replying =>
      refine ⟨received.cliaddr, ?_, fun d other => ?_⟩
      · simp only [World.weight, Function.update_self, Server.held, replying, if_true,
          List.length_append, List.length_singleton, List.length_nil]
        omega
      · have address : received.cliaddr ≠ d := Ne.symm other
        simp only [World.weight, Function.update_of_ne other, Server.held, replying,
          if_neg address]
  | @receive c reply rest waiting takes =>
      refine ⟨c, ?_, fun d other => ?_⟩
      · have taken := takes.length
        simp only [World.weight, Function.update_self, Client.receive, waiting]
        split <;> simp only [reduceCtorEq, if_false] <;> omega
      · simp only [World.weight, Function.update_of_ne other]

end Transit

end NetworkServices.Sctp
