import NetworkServices.Greeting.Programs
import NetworkServices.Greeting.ServersProperties

/-! The process of the server: what its clients have been sent between any two of its calls. The
first client of `server6.cpp` gets nothing, and any other one the greeting. -/

set_option autoImplicit false

namespace NetworkServices.Greeting

variable {κ : Type} [DecidableEq κ]

namespace Host

section Calls

variable (host : Host κ) (client other : κ) (fd : Nat)

omit [DecidableEq κ] in
@[simp] theorem accepted_accept : (host.accept client).accepted = host.accepted ++ [client] := by
  simp only [accepted, accept, List.filterMap_append]
  rfl

omit [DecidableEq κ] in
@[simp] theorem accepted_write (text : CString) : (host.write fd text).accepted = host.accepted := by
  unfold write
  cases host.table.lookup fd with
  | none => rfl
  | some target =>
      simp only [accepted, List.filterMap_append]
      exact List.append_nil _

omit [DecidableEq κ] in
@[simp] theorem accepted_refuse : (host.refuse fd).accepted = host.accepted := by
  unfold refuse
  split <;> rfl

omit [DecidableEq κ] in
@[simp] theorem accepted_close : (host.close fd).accepted = host.accepted := by
  simp only [accepted, close, List.filterMap_append]
  exact List.append_nil _

@[simp] theorem sent_accept : (host.accept client).sent other = host.sent other := by
  simp only [sent, accept, List.flatMap_append]
  exact List.append_nil _

@[simp] theorem sent_refuse : (host.refuse fd).sent other = host.sent other := by
  unfold refuse
  split <;> rfl

@[simp] theorem sent_close : (host.close fd).sent other = host.sent other := by
  simp only [sent, close, List.flatMap_append]
  exact List.append_nil _

omit [DecidableEq κ] in
@[simp] theorem running_accept : (host.accept client).running = host.running := rfl

omit [DecidableEq κ] in
@[simp] theorem running_write (text : CString) : (host.write fd text).running = host.running := by
  unfold write
  split <;> rfl

omit [DecidableEq κ] in
@[simp] theorem running_refuse : (host.refuse fd).running = host.running := by
  unfold refuse
  split <;> rfl

omit [DecidableEq κ] in
@[simp] theorem running_close : (host.close fd).running = host.running := rfl

omit [DecidableEq κ] in
@[simp] theorem refused_accept : (host.accept client).refused = host.refused := rfl

omit [DecidableEq κ] in
@[simp] theorem refused_write (text : CString) : (host.write fd text).refused = host.refused := by
  unfold write
  split <;> rfl

omit [DecidableEq κ] in
@[simp] theorem refused_close : (host.close fd).refused = host.refused := rfl

omit [DecidableEq κ] in
@[simp] theorem table_accept :
    (host.accept client).table = (host.table.allocate (.connection client)).2 := rfl

omit [DecidableEq κ] in
@[simp] theorem table_write (text : CString) : (host.write fd text).table = host.table := by
  unfold write
  split <;> rfl

omit [DecidableEq κ] in
@[simp] theorem table_refuse : (host.refuse fd).table = host.table := by
  unfold refuse
  split <;> rfl

omit [DecidableEq κ] in
@[simp] theorem table_close : (host.close fd).table = host.table.close fd := rfl

end Calls

variable {host : Host κ} {client other : κ} {fd : Nat}

theorem sent_write_connection (found : host.table.lookup fd = some (.connection client))
    (text : CString) :
    (host.write fd text).sent other =
      host.sent other ++ if client = other then text else [] := by
  simp only [write, found, sent, List.flatMap_append]
  exact congrArg _ (List.append_nil _)

theorem sent_write_other {name : Nat} (found : host.table.lookup fd = some (.other name))
    (text : CString) : (host.write fd text).sent other = host.sent other := by
  simp only [write, found, sent, List.flatMap_append]
  exact List.append_nil _

omit [DecidableEq κ] in
theorem refused_refuse (found : host.table.lookup fd = some (.connection client)) :
    (host.refuse fd).refused = host.refused ++ [client] := by
  simp only [refuse, found]

end Host

/-- A pass of a server in which nothing fails, with the descriptor it writes to. -/
def Host.greet (host : Host κ) (client : κ) (fd : Nat) : Host κ :=
  ((host.accept client).write fd msg).close fd

omit [DecidableEq κ] in
theorem Host.events_greet {host : Host κ} {client : κ} {fd : Nat} {target : File κ}
    (found : (host.accept client).table.lookup fd = some target) :
    (host.greet client fd).events = host.events ++
      [.accepted host.table.lowestFree client, .wrote fd target msg, .closed fd (some target)] := by
  have written : (host.accept client).write fd msg =
      { host.accept client with events := (host.accept client).events ++
        [.wrote fd target msg] } := by
    simp only [write, found]
  rw [greet, close, written]
  dsimp only
  rw [found, accept]
  simp only [List.append_assoc]
  rfl

omit [DecidableEq κ] in
theorem Host.table_greet (host : Host κ) (client : κ) (fd : Nat) :
    (host.greet client fd).table = (host.table.allocate (.connection client)).2.close fd := by
  rw [greet, table_close, table_write, table_accept]

omit [DecidableEq κ] in
/-- Passes without a failure do what the loop of `server4.c` does on its own. -/
theorem events_sending_response (host : Host κ) (clients : List κ) :
    (clients.foldl (fun host client => host.greet client host.table.lowestFree) host).events =
      host.events ++ sending_response host.table (clients.map some) := by
  induction clients generalizing host with
  | nil => exact (List.append_nil _).symm
  | cons client clients ih =>
      rw [List.foldl_cons, ih, Host.events_greet (host.table.lookup_allocate _),
        Host.table_greet, List.map_cons, sending_response_some, List.append_assoc]
      rfl

omit [DecidableEq κ] in
theorem events_serverLoop (host : Host κ) (clients : List κ) :
    (clients.foldl (fun host client => host.greet client 0) host).events =
      host.events ++ serverLoop host.table (clients.map fun client => some (client, .spare)) := by
  induction clients generalizing host with
  | nil => exact (List.append_nil _).symm
  | cons client clients ih =>
      have found := host.table.lookup_zero_allocate (.connection client)
      rw [List.foldl_cons, ih, Host.table_greet, List.map_cons, serverLoop_some,
        Host.events_greet found, found, List.append_assoc]
      rfl

/-- The client whose greeting goes elsewhere. -/
def Lost (server : ServerProgram) (host : Host κ) (client : κ) : Prop :=
  server = .server6 ∧ host.accepted.head? = some client

/-- Why a client may be left without a greeting otherwise. -/
def Gone (server : ServerProgram) (host : Host κ) (client : κ) : Prop :=
  host.running = false ∨ server = .server4 ∧ client ∈ host.refused

/-- What holds of the host between any two calls. -/
structure Host.Sound (server : ServerProgram) (host : Host κ) : Prop where
  sent : ∀ client, host.sent client = [] ∨ host.sent client = msg ∧ client ∈ host.accepted
  lost : ∀ client, Lost server host client → host.sent client = []
  waiting : ∀ client ∈ host.accepted, host.sent client = [] → Gone server host client ∨
    ∃ fd, host.table.lookup fd = some (.connection client)
  served : ∀ client ∈ host.accepted.dropLast,
    host.sent client = msg ∨ Gone server host client ∨ Lost server host client

/-- What holds when the server comes to `accept`. -/
structure Host.Idle (server : ServerProgram) (host : Host κ) : Prop extends
    Host.Sound server host where
  done : ∀ client ∈ host.accepted, host.sent client = msg ∨ Gone server host client ∨
    Lost server host client ∧ ∃ fd, fd ≠ 0 ∧ host.table.lookup fd = some (.connection client)
  zero : server = .server6 →
    host.accepted = [] ∧ (∃ name, host.table.lookup 0 = some (.other name)) ∨
      host.accepted ≠ [] ∧ host.table.lookup 0 = none

section Accept

variable {server : ServerProgram} {host : Host κ} {client other : κ}

omit [DecidableEq κ] in
theorem gone_accept_iff : Gone server (host.accept client) other ↔ Gone server host other := Iff.rfl

omit [DecidableEq κ] in
theorem Lost.accept (lost : Lost server host other) : Lost server (host.accept client) other := by
  refine ⟨lost.1, ?_⟩
  rw [Host.accepted_accept, List.head?_append, lost.2]
  rfl

theorem Host.Idle.sound_accept (idle : host.Idle server) (fresh : client ∉ host.accepted) :
    (host.accept client).Sound server where
  sent := by
    intro other
    rw [Host.sent_accept, Host.accepted_accept]
    rcases idle.sent other with unsent | ⟨greeted, accepted⟩
    · exact .inl unsent
    · exact .inr ⟨greeted, List.mem_append_left _ accepted⟩
  lost := by
    intro other lost
    rw [Host.sent_accept]
    obtain ⟨server6, first⟩ := lost
    rw [Host.accepted_accept] at first
    cases accepted : host.accepted with
    | nil =>
        rw [accepted] at first
        cases first
        exact (idle.sent client).resolve_right fun greeted => fresh greeted.2
    | cons head rest =>
        rw [accepted] at first
        exact idle.lost other ⟨server6, accepted ▸ first⟩
  waiting := by
    intro other accepted unsent
    rw [Host.sent_accept] at unsent
    rw [Host.accepted_accept, List.mem_append, List.mem_singleton] at accepted
    rcases accepted with earlier | rfl
    · rcases idle.waiting other earlier unsent with gone | ⟨fd, opened⟩
      · exact .inl gone
      · have used : fd ≠ host.table.lowestFree := by
          rintro rfl
          rw [host.table.lookup_lowestFree] at opened
          cases opened
        exact .inr ⟨fd, (DescriptorTable.lookup_allocate_of_ne _ used).trans opened⟩
    · exact .inr ⟨host.table.lowestFree, host.table.lookup_allocate _⟩
  served := by
    intro other accepted
    rw [Host.accepted_accept, List.dropLast_concat] at accepted
    rw [Host.sent_accept]
    rcases idle.done other accepted with greeted | gone | ⟨lost, _⟩
    · exact .inl greeted
    · exact .inr (.inl gone)
    · exact .inr (.inr lost.accept)

end Accept

section Send

variable {server : ServerProgram} {host : Host κ} {client other : κ} {fd : Nat}

omit [DecidableEq κ] in
theorem gone_write_iff : Gone server (host.write fd msg) other ↔ Gone server host other := by
  rw [Gone, Gone, Host.running_write, Host.refused_write]

omit [DecidableEq κ] in
theorem lost_write_iff : Lost server (host.write fd msg) other ↔ Lost server host other := by
  rw [Lost, Lost, Host.accepted_write]

/-- The client that was accepted last gets its greeting. -/
theorem Host.Sound.write (sound : host.Sound server)
    (found : host.table.lookup fd = some (.connection client)) (accepted : client ∈ host.accepted)
    (unsent : host.sent client = []) (other : ¬ Lost server host client) :
    (host.write fd msg).Sound server where
  sent := by
    intro name
    rw [Host.sent_write_connection found, Host.accepted_write]
    by_cases same : client = name
    · subst same
      rw [if_pos rfl, unsent]
      exact .inr ⟨rfl, accepted⟩
    · rw [if_neg same, List.append_nil]
      exact sound.sent name
  lost := by
    intro name lost
    rw [lost_write_iff] at lost
    have differ : client ≠ name := fun same => other (same ▸ lost)
    rw [Host.sent_write_connection found, if_neg differ, List.append_nil]
    exact sound.lost name lost
  waiting := by
    intro name member nothing
    rw [Host.accepted_write] at member
    rw [Host.sent_write_connection found] at nothing
    rw [gone_write_iff, Host.table_write]
    exact sound.waiting name member (List.append_eq_nil_iff.mp nothing).1
  served := by
    intro name member
    rw [Host.accepted_write] at member
    rw [gone_write_iff, lost_write_iff, Host.sent_write_connection found]
    by_cases same : client = name
    · subst same
      rw [if_pos rfl, unsent]
      exact .inl rfl
    · rw [if_neg same, List.append_nil]
      exact sound.served name member

theorem Host.Sound.write_other {name : Nat} (sound : host.Sound server)
    (found : host.table.lookup fd = some (.other name)) :
    (host.write fd msg).Sound server where
  sent := by
    intro client
    rw [Host.sent_write_other found, Host.accepted_write]
    exact sound.sent client
  lost := by
    intro client lost
    rw [Host.sent_write_other found]
    exact sound.lost client (lost_write_iff.mp lost)
  waiting := by
    intro client member nothing
    rw [Host.accepted_write] at member
    rw [Host.sent_write_other found] at nothing
    rw [gone_write_iff, Host.table_write]
    exact sound.waiting client member nothing
  served := by
    intro client member
    rw [Host.accepted_write] at member
    rw [gone_write_iff, lost_write_iff, Host.sent_write_other found]
    exact sound.served client member

omit [DecidableEq κ] in
theorem Gone.refuse (gone : Gone server host other) : Gone server (host.refuse fd) other := by
  rcases gone with ended | ⟨server4, refused⟩
  · exact .inl ((host.running_refuse fd).trans ended)
  · refine .inr ⟨server4, ?_⟩
    unfold Host.refuse
    split
    · exact List.mem_append_left _ refused
    · exact refused

theorem Host.Sound.refuse (sound : host.Sound server) : (host.refuse fd).Sound server where
  sent := by
    intro client
    rw [Host.sent_refuse, Host.accepted_refuse]
    exact sound.sent client
  lost := by
    intro client lost
    rw [Host.sent_refuse]
    refine sound.lost client ⟨lost.1, ?_⟩
    rw [← host.accepted_refuse fd]
    exact lost.2
  waiting := by
    intro client member nothing
    rw [Host.accepted_refuse] at member
    rw [Host.sent_refuse] at nothing
    rw [Host.table_refuse]
    exact (sound.waiting client member nothing).imp_left Gone.refuse
  served := by
    intro client member
    rw [Host.accepted_refuse] at member
    rw [Host.sent_refuse, Lost, Host.accepted_refuse]
    exact (sound.served client member).imp_right (Or.imp_left Gone.refuse)

end Send

section Close

variable {server : ServerProgram} {host : Host κ} {client other : κ} {fd : Nat}

omit [DecidableEq κ] in
theorem gone_close_iff : Gone server (host.close fd) other ↔ Gone server host other := Iff.rfl

omit [DecidableEq κ] in
theorem lost_close_iff : Lost server (host.close fd) other ↔ Lost server host other := by
  rw [Lost, Lost, Host.accepted_close]

/-- At the end of a pass the client of the descriptor that is closed has got its greeting, or it
has another descriptor. -/
theorem Host.Sound.idle_close (sound : host.Sound server)
    (done : ∀ client ∈ host.accepted, host.sent client = msg ∨ Gone server host client ∨
      Lost server host client ∧
        ∃ other, other ≠ 0 ∧ other ≠ fd ∧ host.table.lookup other = some (.connection client))
    (zero : server = .server6 → fd = 0 ∧ host.accepted ≠ []) : (host.close fd).Idle server where
  sent := by
    intro client
    rw [Host.sent_close, Host.accepted_close]
    exact sound.sent client
  lost := by
    intro client lost
    rw [Host.sent_close]
    exact sound.lost client (lost_close_iff.mp lost)
  waiting := by
    intro client member nothing
    rw [Host.accepted_close] at member
    rw [Host.sent_close] at nothing
    rcases done client member with greeted | gone | ⟨_, other, _, differ, opened⟩
    · rw [nothing] at greeted
      cases greeted
    · exact .inl gone
    · exact .inr ⟨other, (DescriptorTable.lookup_close_of_ne differ).trans opened⟩
  served := by
    intro client member
    rw [Host.accepted_close] at member
    rw [Host.sent_close, gone_close_iff, lost_close_iff]
    exact sound.served client member
  done := by
    intro client member
    rw [Host.accepted_close] at member
    rw [Host.sent_close, gone_close_iff, lost_close_iff]
    refine (done client member).imp_right (Or.imp_right ?_)
    rintro ⟨lost, other, nonzero, differ, opened⟩
    exact ⟨lost, other, nonzero, (DescriptorTable.lookup_close_of_ne differ).trans opened⟩
  zero := by
    intro server6
    obtain ⟨rfl, nonempty⟩ := zero server6
    refine .inr ⟨?_, DescriptorTable.lookup_close_self _ 0⟩
    rw [Host.accepted_close]
    exact nonempty

/-- The clients of earlier passes are as they were. -/
theorem Host.Idle.earlier (idle : host.Idle server) (accepted : other ∈ host.accepted)
    (client : κ) :
    host.sent other = msg ∨ Gone server host other ∨ Lost server (host.accept client) other ∧
      ∃ fd, fd ≠ 0 ∧ (host.accept client).table.lookup fd = some (.connection other) := by
  refine (idle.done other accepted).imp_right (Or.imp_right ?_)
  rintro ⟨lost, fd, nonzero, opened⟩
  have used : fd ≠ host.table.lowestFree := by
    rintro rfl
    rw [host.table.lookup_lowestFree] at opened
    cases opened
  exact ⟨lost.accept, fd, nonzero, (DescriptorTable.lookup_allocate_of_ne _ used).trans opened⟩

end Close

/-!
## One pass of each server
-/

section Server4

variable {host : Host κ} {client : κ}

omit [DecidableEq κ] in
theorem not_lost_server4 : ¬ Lost .server4 host client := nofun

theorem unsent_of_fresh {server : ServerProgram} (idle : host.Idle server)
    (fresh : client ∉ host.accepted) : (host.accept client).sent client = [] := by
  rw [Host.sent_accept]
  exact (idle.sent client).resolve_right fun greeted => fresh greeted.2

theorem Host.Idle.sound_greet (idle : host.Idle .server4) (fresh : client ∉ host.accepted) :
    ((host.accept client).write host.table.lowestFree msg).Sound .server4 :=
  (idle.sound_accept fresh).write (host.table.lookup_allocate _) (by simp)
    (unsent_of_fresh idle fresh) not_lost_server4

theorem Host.Idle.greet (idle : host.Idle .server4) (fresh : client ∉ host.accepted) :
    (host.greet client host.table.lowestFree).Idle .server4 := by
  refine (idle.sound_greet fresh).idle_close ?_ nofun
  intro other member
  have found : (host.accept client).table.lookup host.table.lowestFree =
    some (.connection client) := host.table.lookup_allocate _
  rw [Host.accepted_write, Host.accepted_accept, List.mem_append, List.mem_singleton] at member
  rw [Host.sent_write_connection found, Host.sent_accept, gone_write_iff]
  by_cases same : client = other
  · subst same
    have unsent := unsent_of_fresh idle fresh
    rw [Host.sent_accept] at unsent
    rw [if_pos rfl, unsent]
    exact .inl rfl
  · rw [if_neg same, List.append_nil]
    rcases idle.earlier (member.resolve_right (Ne.symm same)) client with greeted | gone | ⟨lost, _⟩
    · exact .inl greeted
    · exact .inr (.inl gone)
    · exact absurd lost not_lost_server4

theorem Host.Idle.pass_over (idle : host.Idle .server4) (fresh : client ∉ host.accepted) :
    (((host.accept client).refuse host.table.lowestFree).close
      host.table.lowestFree).Idle .server4 := by
  refine (idle.sound_accept fresh).refuse.idle_close ?_ nofun
  intro other member
  have found : (host.accept client).table.lookup host.table.lowestFree =
    some (.connection client) := host.table.lookup_allocate _
  rw [Host.accepted_refuse, Host.accepted_accept, List.mem_append, List.mem_singleton] at member
  rw [Host.sent_refuse, Host.sent_accept]
  rcases member with earlier | rfl
  · rcases idle.earlier earlier other with greeted | gone | ⟨lost, _⟩
    · exact .inl greeted
    · exact .inr (.inl (gone_accept_iff.mpr gone).refuse)
    · exact absurd lost not_lost_server4
  · refine .inr (.inl (.inr ⟨rfl, ?_⟩))
    rw [Host.refused_refuse found]
    exact List.mem_append_right _ (List.mem_singleton_self _)

end Server4

section Server6

variable {host : Host κ} {client : κ}

/-- What descriptor 0 is when a connection has been accepted: what was inherited as long as there
is no other client, and the connection from then on. -/
theorem Host.Idle.target (idle : host.Idle .server6) (fresh : client ∉ host.accepted) :
    host.accepted = [] ∧ host.table.lowestFree ≠ 0 ∧
        (∃ name, (host.accept client).table.lookup 0 = some (.other name)) ∨
      ¬ Lost .server6 (host.accept client) client ∧
        (host.accept client).table.lookup 0 = some (.connection client) := by
  have found := host.table.lookup_zero_allocate (.connection client)
  rcases idle.zero rfl with ⟨none_before, name, used⟩ | ⟨nonempty, free⟩
  · have positive : host.table.lowestFree ≠ 0 := by
      rw [Ne, host.table.lowestFree_eq_zero_iff, used]
      exact Option.some_ne_none _
    rw [used] at found
    exact .inl ⟨none_before, positive, name, found⟩
  · refine .inr ⟨?_, ?_⟩
    · rintro ⟨_, first⟩
      rw [Host.accepted_accept, List.head?_append_of_ne_nil _ nonempty] at first
      exact fresh (List.mem_of_mem_head? first)
    · rwa [free] at found

theorem Host.Idle.sound_greet0 (idle : host.Idle .server6) (fresh : client ∉ host.accepted) :
    ((host.accept client).write 0 msg).Sound .server6 := by
  rcases idle.target fresh with ⟨_, _, name, used⟩ | ⟨other, found⟩
  · exact (idle.sound_accept fresh).write_other used
  · exact (idle.sound_accept fresh).write found (by simp) (unsent_of_fresh idle fresh) other

theorem Host.Idle.greet0 (idle : host.Idle .server6) (fresh : client ∉ host.accepted) :
    (host.greet client 0).Idle .server6 := by
  refine (idle.sound_greet0 fresh).idle_close ?_ fun _ => ⟨rfl, by simp⟩
  intro other member
  rw [Host.accepted_write, Host.accepted_accept, List.mem_append, List.mem_singleton] at member
  rw [gone_write_iff, lost_write_iff, Host.table_write]
  rcases idle.target fresh with ⟨none_before, positive, name, used⟩ | ⟨_, found⟩
  · rw [none_before] at member
    obtain rfl := member.resolve_left List.not_mem_nil
    refine .inr (.inr ⟨⟨rfl, ?_⟩, host.table.lowestFree, positive, positive,
      host.table.lookup_allocate _⟩)
    rw [Host.accepted_accept, none_before]
    rfl
  · rw [Host.sent_write_connection found, Host.sent_accept]
    by_cases same : client = other
    · subst same
      have unsent := unsent_of_fresh idle fresh
      rw [Host.sent_accept] at unsent
      rw [if_pos rfl, unsent]
      exact .inl rfl
    · rw [if_neg same, List.append_nil]
      refine (idle.earlier (member.resolve_right (Ne.symm same)) client).imp_right (Or.imp_right ?_)
      rintro ⟨lost, fd, nonzero, opened⟩
      exact ⟨lost, fd, nonzero, nonzero, opened⟩

end Server6

end NetworkServices.Greeting
