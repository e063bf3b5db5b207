import NetworkServices.Greeting.HostProperties

/-! What the processes of the greeting service rely on: the host is the server's, what is known of a
client is the client's, and to the clients the host only grows. -/

set_option autoImplicit false

namespace NetworkServices.Greeting

variable {κ : Type} [DecidableEq κ]

/-- What the clients see of the host only grows. -/
structure Host.Grows (host later : Host κ) : Prop where
  sent : ∀ client, host.sent client <+: later.sent client
  running : host.running = false → later.running = false
  refused : host.refused ⊆ later.refused

section Grows

variable {host later last : Host κ}

theorem Host.Grows.refl (host : Host κ) : host.Grows host :=
  ⟨fun _ => List.prefix_rfl, id, List.Subset.refl _⟩

theorem Host.Grows.trans (first : host.Grows later) (second : later.Grows last) :
    host.Grows last :=
  ⟨fun client => (first.sent client).trans (second.sent client),
    second.running ∘ first.running, List.Subset.trans first.refused second.refused⟩

theorem front_of_eq {text other : CString} (same : other = text) : text <+: other := by
  subst same
  exact List.prefix_rfl

theorem Host.grows_accept (host : Host κ) (client : κ) : host.Grows (host.accept client) := by
  refine ⟨fun other => ?_, id, List.Subset.refl _⟩
  exact front_of_eq (host.sent_accept client other)

theorem Host.grows_write (host : Host κ) (fd : Nat) (text : CString) :
    host.Grows (host.write fd text) := by
  refine ⟨fun client => ?_, (host.running_write fd text).trans, ?_⟩
  · cases found : host.table.lookup fd with
    | none =>
        have same : host.write fd text = host := by simp only [Host.write, found]
        exact front_of_eq (congrArg (Host.sent · client) same)
    | some target =>
        cases target with
        | other name => exact front_of_eq (Host.sent_write_other found text)
        | connection other =>
            rw [Host.sent_write_connection found]
            exact List.prefix_append _ _
  · rw [Host.refused_write]
    exact List.Subset.refl _

theorem Host.grows_refuse (host : Host κ) (fd : Nat) : host.Grows (host.refuse fd) := by
  refine ⟨fun client => ?_, (host.running_refuse fd).trans, ?_⟩
  · exact front_of_eq (host.sent_refuse client fd)
  · unfold Host.refuse
    split
    · exact List.subset_append_left _ _
    · exact List.Subset.refl _

theorem Host.grows_close (host : Host κ) (fd : Nat) : host.Grows (host.close fd) := by
  refine ⟨fun other => ?_, id, List.Subset.refl _⟩
  exact front_of_eq (host.sent_close other fd)

omit [DecidableEq κ] in
theorem Gone.mono {server : ServerProgram} {client : κ} (gone : Gone server host client)
    (running : host.running = false → later.running = false)
    (refused : host.refused ⊆ later.refused) : Gone server later client :=
  gone.imp running (And.imp_right (@refused client))

end Grows

/-- What a client has shown: nothing yet, or one front of what was sent to it. -/
def Shows (server : ServerProgram) (world : World κ) (name : κ) : Prop :=
  (world.client name).shown = [] ∨
    ∃ text, (world.client name).shown = [text] ∧ text <+: world.host.sent name ∧
      (text = [] → Gone server world.host name)

structure World.Sound (server : ServerProgram) (world : World κ) : Prop where
  host : world.host.Sound server
  distinct : (world.host.accepted ++ world.queue).Nodup
  connected : ∀ name ∈ world.host.accepted ++ world.queue, (world.client name).connected = true
  shows : ∀ name, Shows server world name

/-- The words of the arguments of `client6.c` have room in its arrays. -/
def Invocation.Fits (invocation : Invocation) : Prop :=
  invocation.program = .client6 → ∀ name address port interface,
    invocation.argv = [name, address, port, interface] →
      ((scanWords 1 address).headD []).length < 16 ∧
        ((scanWords 1 interface).headD []).length < 3

/-- The server is the only one that changes its host, and each client the only one that changes
what is known of it. -/
def contract (server : ServerProgram) (clients : κ → Invocation) :
    Contract (Party κ) Call (World κ) where
  invariant := World.Sound server
  rely
    | .server => fun world later => later.host = world.host
    | .client name => fun world later =>
        later.client name = world.client name ∧ world.host.Grows later.host
  may
    | .server => fun _ request => request = .overrun → server = .server6
    | .client name => fun _ request => request = .overrun → ¬ (clients name).Fits
  relies
    | .server => { refl := fun _ => rfl, trans := fun _ _ _ first second => second.trans first }
    | .client _ =>
        { refl := fun _ => ⟨rfl, .refl _⟩
          trans := fun _ _ _ first second =>
            ⟨second.1.trans first.1, first.2.trans second.2⟩ }

section Rules

variable {server : ServerProgram} {clients : κ → Invocation} {party : Party κ} {world : World κ}
  {Result : Type} {post : World κ → Result → Prop}

/-- A call that changes nothing. -/
theorem keeps_quiet {request : Call} {next : Answer request → Process Result}
    (unchanged : ∀ (world : World κ) answer, shared.after party world request answer = world)
    (allowed : ∀ world, (contract server clients).may party world request)
    (rest : ∀ later, (contract server clients).Later party world later → ∀ answer,
      shared.promise party later request answer →
        Keeps shared (contract server clients) party post later (next answer)) :
    Keeps shared (contract server clients) party post world (.call request next) := by
  intro later others
  refine ⟨allowed later, fun answer promised => ?_⟩
  rw [unchanged]
  exact ⟨Contract.respects_self others.invariant, rest later others answer promised⟩

end Rules

end NetworkServices.Greeting
