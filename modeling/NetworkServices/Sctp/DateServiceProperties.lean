import NetworkServices.Sctp.DateServiceInvariant
import Mathlib.Algebra.Order.BigOperators.Group.Finset

/-! Every run of the date service ends, and what the clients have printed by then. -/

set_option autoImplicit false

namespace NetworkServices.Sctp.DateService

variable {ι : Type} [DecidableEq ι]

/-!
## Termination
-/

def Client.weight (client : Client) : Nat :=
  (2 - client.i) + match client.control with
    | .connecting => 8
    | .receiving => 1
    | .closed => 0

/-- The steps that one client and its association can still cause. -/
def World.clientWeight (world : World ι) (c : ι) : Nat :=
  (world.client c).weight + if world.lost c then 0 else 1

def Server.weight : Server → Nat
  | .accepting => 1
  | .sendingData _ _ => 3
  | .sendingCzas _ _ => 2
  | .exited => 0

def World.weight [Fintype ι] (world : World ι) : Nat :=
  ∑ c, world.clientWeight c + (4 * world.queue.length + world.server.weight)

/-- A sum changes by what one of its summands does. -/
theorem sum_add_eq [Fintype ι] {f g : ι → Nat} (c : ι) (others : ∀ d, d ≠ c → f d = g d) :
    ∑ d, f d + g c = ∑ d, g d + f c := by
  have split (h : ι → Nat) : ∑ d, h d = h c + ∑ d ∈ Finset.univ.erase c, h d :=
    (Finset.add_sum_erase _ h (Finset.mem_univ c)).symm
  have rest : ∑ d ∈ Finset.univ.erase c, f d = ∑ d ∈ Finset.univ.erase c, g d :=
    Finset.sum_congr rfl fun d member => others d (Finset.ne_of_mem_erase member)
  rw [split f, split g, rest]
  omega

theorem Client.pass_weight {client : Client} (receiving : client.control = .receiving) :
    client.pass.weight < client.weight := by
  by_cases more : client.i + 1 < sinit_num_ostreams - 1
  · simp only [Client.pass, Client.weight, receiving, if_pos more]
    rw [sinit_num_ostreams] at more
    omega
  · simp only [Client.pass, Client.weight, receiving, if_neg more]
    omega

theorem Client.recvmsg_weight (client : Client) (message : Message) (beyond : List UInt8) :
    (client.recvmsg message beyond).weight = client.pass.weight := by
  rw [Client.recvmsg]
  dsimp only
  split <;> rfl

theorem weight_add_eq [Fintype ι] {world next : World ι} (c : ι)
    (others : ∀ d, d ≠ c → next.clientWeight d = world.clientWeight d) :
    next.weight + world.clientWeight c + (4 * world.queue.length + world.server.weight) =
      world.weight + next.clientWeight c + (4 * next.queue.length + next.server.weight) := by
  have sums := sum_add_eq c others
  simp only [World.weight]
  omega

/-- A step of one client, or of its association. -/
theorem weight_lt_of_client [Fintype ι] {world next : World ι} (c : ι)
    (others : ∀ d, d ≠ c → next.clientWeight d = world.clientWeight d)
    (less : next.clientWeight c + 4 * next.queue.length <
      world.clientWeight c + 4 * world.queue.length) (server : next.server = world.server) :
    next.weight < world.weight := by
  have sums := weight_add_eq c others
  rw [server] at sums
  omega

omit [DecidableEq ι] in
/-- A step of the server. -/
theorem weight_lt_of_server [Fintype ι] {world next : World ι}
    (clients : next.clientWeight = world.clientWeight)
    (less : 4 * next.queue.length + next.server.weight <
      4 * world.queue.length + world.server.weight) : next.weight < world.weight := by
  rw [World.weight, World.weight, clients]
  exact Nat.add_lt_add_left less _

theorem Step.weight [Fintype ι] {limit : Nat} {world next : World ι}
    (step : Step limit world next) : next.weight < world.weight := by
  cases step with
  | @connect c s_status connecting up =>
      refine weight_lt_of_client c (fun d other => ?_) ?_ rfl
      · simp only [World.clientWeight, Function.update_of_ne other]
      · simp only [World.clientWeight, Function.update_self, Client.weight, connecting,
          List.length_append, List.length_singleton]
        omega
  | @connectFailed c connecting =>
      refine weight_lt_of_client c (fun d other => ?_) ?_ rfl
      · simp only [World.clientWeight, Function.update_of_ne other]
      · simp only [World.clientWeight, Function.update_self, Client.weight, connecting]
        omega
  | @accept c rest tm accepting first free =>
      refine weight_lt_of_server rfl ?_
      rw [first, accepting, List.length_cons]
      simp only [Server.weight]
      omega
  | acceptFailed accepting cause =>
      refine weight_lt_of_server rfl ?_
      simp only [accepting, Server.weight]
      omega
  | sendData beyond sending connected up valid =>
      refine weight_lt_of_server rfl ?_
      simp only [sending, Server.weight]
      omega
  | sendCzas beyond sending connected up valid =>
      refine weight_lt_of_server rfl ?_
      simp only [sending, Server.weight]
      omega
  | sendFailed sending connected down =>
      refine weight_lt_of_server rfl ?_
      rcases sending with sending | sending
      · simp only [sending, Server.weight]
        omega
      · simp only [sending, Server.weight]
        omega
  | @receive c message rest beyond receiving takes =>
      refine weight_lt_of_client c (fun d other => ?_) ?_ rfl
      · simp only [World.clientWeight, Function.update_of_ne other]
      · have less := Client.pass_weight receiving
        simp only [World.clientWeight, Function.update_self, Client.recvmsg_weight]
        omega
  | @receiveFailed c receiving ended =>
      refine weight_lt_of_client c (fun d other => ?_) ?_ rfl
      · simp only [World.clientWeight, Function.update_of_ne other]
      · have less := Client.pass_weight receiving
        simp only [World.clientWeight, Function.update_self]
        omega
  | @lose c up =>
      refine weight_lt_of_client c (fun d other => ?_) ?_ rfl
      · simp only [World.clientWeight, Function.update_of_ne other]
      · simp [World.clientWeight, up]

/-- The clients that have connected are those that have printed the status of their association. -/
def Announced (world : World ι) : Prop :=
  ∀ c, c ∈ world.members ↔ (world.client c).s_status ≠ none

section Announced

variable {limit : Nat} {world next : World ι}

/-- A step of one client whose association there was before. -/
theorem Announced.onClient (announced : Announced world) (c : ι) (client : Client)
    (same : client.s_status = (world.client c).s_status) {transit : ι → List Message}
    {lost : ι → Bool} :
    Announced { world with client := Function.update world.client c client, transit, lost } := by
  intro d
  rcases eq_or_ne d c with rfl | other
  · simp only [Function.update_self, same]
    exact announced d
  · simp only [Function.update_of_ne other]
    exact announced d

theorem recvmsg_status (client : Client) (message : Message) (beyond : List UInt8) :
    (client.recvmsg message beyond).s_status = client.s_status := by
  rw [Client.recvmsg]
  dsimp only
  split <;> rfl

theorem Announced.step (announced : Announced world) (step : Step limit world next) :
    Announced next := by
  cases step with
  | @connect c s_status connecting up =>
      intro d
      have joins : d ∈ (world.queue ++ [c]) ++ world.accepted.map Accepted.client ↔
          d = c ∨ d ∈ world.members := by
        rw [List.append_assoc]
        exact (List.perm_middle.mem_iff).trans List.mem_cons
      refine joins.trans ?_
      rcases eq_or_ne d c with rfl | other
      · simp only [Function.update_self]
        exact ⟨fun _ => Option.some_ne_none s_status, fun _ => .inl trivial⟩
      · simp only [Function.update_of_ne other, other, false_or]
        exact announced d
  | @connectFailed c connecting =>
      exact announced.onClient c { world.client c with control := .closed } rfl
  | @accept c rest tm accepting first free =>
      intro d
      refine Iff.trans ?_ (announced d)
      simp only [World.members, first, List.map_append, List.map_cons, List.map_nil,
        List.mem_append, List.mem_cons, List.not_mem_nil, or_false]
      exact ⟨fun member => by tauto, fun member => by tauto⟩
  | acceptFailed accepting cause => exact announced
  | sendData beyond sending connected up valid => exact announced
  | sendCzas beyond sending connected up valid => exact announced
  | sendFailed sending connected down => exact announced
  | @receive c message rest beyond receiving takes =>
      exact announced.onClient c _ (recvmsg_status _ message beyond)
  | @receiveFailed c receiving ended => exact announced.onClient c (world.client c).pass rfl
  | lose up => exact announced

theorem Announced.run (announced : Announced world)
    (run : Relation.ReflTransGen (Step limit) world next) : Announced next := by
  induction run with
  | refl => exact announced
  | tail _ step ih => exact ih.step step

end Announced

/-- What holds when nothing can happen any more. -/
structure Finished (limit : Nat) (world : World ι) : Prop where
  closed : ∀ c, (world.client c).control = .closed
  printed : ∀ entry ∈ world.accepted, world.lost entry.client = false → ∀ tm,
    (world.client entry.client).printed.Perm (answers tm) ↔ tm = entry.tm
  served : world.queue = [] ∨ limit ≤ world.table.lowestFree ∨ ∃ c, world.lost c = true

section Stuck

variable {limit : Nat} {table : DescriptorTable (OpenFile ι)} {world : World ι}

/-- The server has ended, or it waits for one more client. -/
theorem Invariant.server_stuck (invariant : Invariant limit table world)
    (stuck : ∀ next, ¬ Step limit world next) :
    world.server = .exited ∨ world.server = .accepting ∧ world.queue = [] := by
  cases state : world.server with
  | exited => exact .inl rfl
  | accepting =>
      have free : world.table.lowestFree < limit := by
        by_contra full
        exact stuck _ (.acceptFailed state (.inl (Nat.le_of_not_lt full)))
      cases queue : world.queue with
      | nil => exact .inr ⟨rfl, rfl⟩
      | cons c rest =>
          have clock : Tm := ⟨1, 0, 100, 0, 0, 0, by decide, by decide⟩
          exact absurd (.accept clock state queue free) (stuck _)
  | sendingData connfd tm =>
      obtain ⟨entry, _, _, _, connected⟩ := invariant.target (.inl state)
      cases lost : world.lost entry.client with
      | false => exact absurd (.sendData [] state connected lost (by decide)) (stuck _)
      | true => exact absurd (.sendFailed (.inl state) connected lost) (stuck _)
  | sendingCzas connfd tm =>
      obtain ⟨entry, _, _, _, connected⟩ := invariant.target (.inr state)
      cases lost : world.lost entry.client with
      | false => exact absurd (.sendCzas [] state connected lost (by decide)) (stuck _)
      | true => exact absurd (.sendFailed (.inr state) connected lost) (stuck _)

theorem Invariant.pending_stuck (invariant : Invariant limit table world)
    (stuck : ∀ next, ¬ Step limit world next) (c : ι) : world.pending c = [] := by
  rcases invariant.server_stuck stuck with exited | ⟨accepting, _⟩
  · rw [World.pending, exited]
  · rw [World.pending, accepting]

/-- The lines that were printed and those on their way are all the lines there are. -/
theorem Invariant.lines_stuck (invariant : Invariant limit table world)
    (stuck : ∀ next, ¬ Step limit world next) {entry : Accepted ι} (member : entry ∈ world.accepted)
    (up : world.lost entry.client = false) :
    ((world.client entry.client).printed ++
      (world.transit entry.client).map Message.line).Perm (answers entry.tm) := by
  obtain ⟨missed, lines, whole⟩ := (invariant.balanced entry member).lines
  rwa [invariant.pending_stuck stuck, whole up, List.append_nil, List.append_nil] at lines

theorem Invariant.closed_stuck (invariant : Invariant limit table world)
    (stuck : ∀ next, ¬ Step limit world next) (c : ι) : (world.client c).control = .closed := by
  cases control : (world.client c).control with
  | closed => rfl
  | connecting => exact absurd (.connectFailed control) (stuck _)
  | receiving =>
      exfalso
      have empty : world.transit c = [] := by
        cases transit : world.transit c with
        | nil => rfl
        | cons message rest =>
            exact absurd (.receive [] control (transit ▸ takes_first _ message rest)) (stuck _)
      have up : world.lost c = false := by
        cases lost : world.lost c with
        | false => rfl
        | true => exact absurd (.receiveFailed control (.inl lost)) (stuck _)
      rcases invariant.server_stuck stuck with exited | ⟨_, queue⟩
      · exact stuck _ (.receiveFailed control (.inr ⟨exited, empty⟩))
      · have joined := invariant.joined c control
        have member := joined
        rw [World.members, queue] at member
        obtain ⟨entry, accepted, rfl⟩ := List.mem_map.mp member
        have lines := (invariant.lines_stuck stuck accepted up).length_eq
        have passes := (invariant.balanced entry accepted).passes up
        rw [empty, List.map_nil, List.append_nil, ← passes] at lines
        rcases invariant.connected _ joined with ⟨_, below⟩ | ⟨closed, _⟩
        · exact absurd lines (Nat.ne_of_lt below)
        · rw [closed] at control
          cases control

theorem Invariant.finished (invariant : Invariant limit table world)
    (stuck : ∀ next, ¬ Step limit world next) : Finished limit world := by
  refine ⟨invariant.closed_stuck stuck, ?_, ?_⟩
  · intro entry member up tm
    have inside : entry.client ∈ world.members :=
      List.mem_append_right _ (List.mem_map_of_mem member)
    have lines := invariant.lines_stuck stuck member up
    have passes := (invariant.balanced entry member).passes up
    have arrived : (world.transit entry.client).map Message.line = [] := by
      rcases invariant.connected _ inside with ⟨receiving, _⟩ | ⟨_, last⟩
      · rw [invariant.closed_stuck stuck] at receiving
        cases receiving
      · have length := lines.length_eq
        rw [List.length_append, ← passes, last] at length
        exact List.eq_nil_of_length_eq_zero (Nat.add_left_cancel length)
    rw [arrived, List.append_nil] at lines
    rw [lines.congr_left, answers_perm_iff]
    exact eq_comm
  · rcases invariant.server_stuck stuck with exited | ⟨_, queue⟩
    · exact .inr (invariant.exits exited)
    · exact .inl queue

end Stuck

end NetworkServices.Sctp.DateService
