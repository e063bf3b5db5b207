import NetworkServices.Foundation.Interaction
import Mathlib.Logic.Function.Basic
import Mathlib.Logic.Relation

/-! Programs that run next to each other. Their calls change one state, in any order, so what a
program knows of the state between two of its calls is what it can rely on in the others. -/

set_option autoImplicit false

namespace NetworkServices

variable {ι Call : Type} {Answer : Call → Type} {Result Middle State : Type}

/-- What each process is promised, what its calls do to the state, and what its end does. -/
structure Shared (ι Call : Type) (Answer : Call → Type) (State : Type) where
  promise : ι → State → (request : Call) → Answer request → Prop
  after : ι → State → (request : Call) → Answer request → State
  ended : ι → State → State

structure System (ι Call : Type) (Answer : Call → Type) (State : Type) where
  state : State
  programs : ι → Program Call Answer Unit

inductive System.Step [DecidableEq ι] (shared : Shared ι Call Answer State) :
    System ι Call Answer State → System ι Call Answer State → Prop where
  | call {system : System ι Call Answer State} {i : ι} {request : Call}
      {next : Answer request → Program Call Answer Unit} {answer : Answer request} :
      system.programs i = .call request next →
      shared.promise i system.state request answer →
      Step shared system ⟨shared.after i system.state request answer,
        Function.update system.programs i (next answer)⟩
  | exit {system : System ι Call Answer State} {i : ι} {status : ExitStatus} :
      system.programs i = .exit status →
      Step shared system ⟨shared.ended i system.state,
        Function.update system.programs i (.done ())⟩

namespace System

variable [DecidableEq ι] (shared : Shared ι Call Answer State)
  (environment : ι → State → (request : Call) → Option (Answer request))

/-- One step of a process, which waits where its call is not answered. -/
def advance (i : ι) (system : System ι Call Answer State) : System ι Call Answer State :=
  match system.programs i with
  | .call request next =>
      match environment i system.state request with
      | some answer => ⟨shared.after i system.state request answer,
          Function.update system.programs i (next answer)⟩
      | none => system
  | .exit _ => ⟨shared.ended i system.state, Function.update system.programs i (.done ())⟩
  | .done _ | .cut => system

/-- The run in which the processes make their steps in the order of a schedule. -/
def play (schedule : List ι) (system : System ι Call Answer State) : System ι Call Answer State :=
  schedule.foldl (fun system i => system.advance shared environment i) system

variable {shared environment}

theorem run_advance
    (honest : ∀ i state request, ∀ answer ∈ environment i state request,
      shared.promise i state request answer) (i : ι) (system : System ι Call Answer State) :
    Relation.ReflTransGen (Step shared) system (system.advance shared environment i) := by
  unfold advance
  split
  · next request next current =>
      split
      · next answer answered => exact .single (.call current (honest i _ _ _ answered))
      · exact .refl
  · next status current => exact .single (.exit current)
  · exact .refl
  · exact .refl

theorem run_play
    (honest : ∀ i state request, ∀ answer ∈ environment i state request,
      shared.promise i state request answer) (schedule : List ι)
    (system : System ι Call Answer State) :
    Relation.ReflTransGen (Step shared) system (system.play shared environment schedule) := by
  induction schedule generalizing system with
  | nil => exact .refl
  | cons i schedule ih => exact (run_advance honest i system).trans (ih _)

end System

/-- What the processes have agreed on: an invariant, what each of them relies on in the others,
and the calls it may make. -/
structure Contract (ι Call State : Type) where
  invariant : State → Prop
  rely : ι → State → State → Prop
  may : ι → State → Call → Prop
  relies : ∀ i, IsPreorder State (rely i)

namespace Contract

variable {contract : Contract ι Call State} {i : ι}

/-- A state that the others may have left. -/
structure Later (contract : Contract ι Call State) (i : ι) (state later : State) : Prop where
  invariant : contract.invariant later
  rely : contract.rely i state later

theorem Later.trans {state later last : State} (first : contract.Later i state later)
    (second : contract.Later i later last) : contract.Later i state last :=
  ⟨second.invariant, (contract.relies i).trans _ _ _ first.rely second.rely⟩

theorem later_self {state : State} (holds : contract.invariant state) :
    contract.Later i state state :=
  ⟨holds, (contract.relies i).refl state⟩

/-- A change that the process may make. -/
structure Respects (contract : Contract ι Call State) (i : ι) (state changed : State) : Prop where
  invariant : contract.invariant changed
  rely : ∀ j, j ≠ i → contract.rely j state changed

theorem respects_self {state : State} (holds : contract.invariant state) :
    contract.Respects i state state :=
  ⟨holds, fun j _ => (contract.relies j).refl state⟩

end Contract

variable {shared : Shared ι Call Answer State} {contract : Contract ι Call State}

/-- What a process keeps to whatever it is answered and whatever the others do in between. -/
def Keeps (shared : Shared ι Call Answer State) (contract : Contract ι Call State) (i : ι)
    (post : State → Result → Prop) : State → Program Call Answer Result → Prop
  | state, .done result => post state result
  | state, .exit _ => ∀ later, contract.Later i state later →
      contract.Respects i later (shared.ended i later)
  | _, .cut => True
  | state, .call request next => ∀ later, contract.Later i state later →
      contract.may i later request ∧ ∀ answer, shared.promise i later request answer →
        contract.Respects i later (shared.after i later request answer) ∧
          Keeps shared contract i post (shared.after i later request answer) (next answer)

section Rules

variable {i : ι} {post : State → Result → Prop} {state : State}

/-- The rule of sequence. -/
theorem Keeps.bind {between : State → Middle → Prop} {program : Program Call Answer Middle}
    {next : Middle → Program Call Answer Result}
    (first : Keeps shared contract i between state program)
    (second : ∀ state result, between state result →
      Keeps shared contract i post state (next result)) :
    Keeps shared contract i post state (program >>= next) := by
  show Keeps shared contract i post state (program.bind next)
  induction program generalizing state with
  | done result => exact second state result first
  | exit status => exact first
  | cut => trivial
  | call request next ih =>
      intro later others
      obtain ⟨allowed, answered⟩ := first later others
      refine ⟨allowed, fun answer promised => ?_⟩
      obtain ⟨respects, rest⟩ := answered answer promised
      exact ⟨respects, ih answer rest⟩

/-- The rule of loops. -/
theorem keeps_loop {Locals : Type} {body : Locals → Program Call Answer (Locals ⊕ Result)}
    (invariant : State → Locals → Prop)
    (pass : ∀ state locals, invariant state locals →
      Keeps shared contract i (fun state => Sum.elim (invariant state) (post state)) state
        (body locals))
    {locals : Locals} (start : invariant state locals) (passes : Nat) :
    Keeps shared contract i post state (.loop body passes locals) := by
  induction passes generalizing state locals with
  | zero => trivial
  | succ passes ih =>
      refine Keeps.bind (pass state locals start) ?_
      intro state outcome holds
      cases outcome with
      | inl locals => exact ih holds
      | inr result => exact holds

/-- What the others do does not disturb what is left of a program. -/
theorem Keeps.later {program : Program Call Answer Unit} {later : State}
    (keeps : Keeps shared contract i (fun _ _ => True) state program)
    (others : contract.Later i state later) :
    Keeps shared contract i (fun _ _ => True) later program := by
  cases program with
  | done result => trivial
  | exit status => exact fun last next => keeps last (others.trans next)
  | cut => trivial
  | call request next => exact fun last further => keeps last (others.trans further)

end Rules

/-- The rule of parallel composition: processes that each keep to their contract do so together,
in every order of their calls. -/
theorem System.keeps_of_run [DecidableEq ι] {start system : System ι Call Answer State}
    (holds : contract.invariant start.state)
    (each : ∀ i, Keeps shared contract i (fun _ _ => True) start.state (start.programs i))
    (run : Relation.ReflTransGen (Step shared) start system) :
    contract.invariant system.state ∧
      ∀ i, Keeps shared contract i (fun _ _ => True) system.state (system.programs i) := by
  induction run with
  | refl => exact ⟨holds, each⟩
  | tail _ step ih =>
      obtain ⟨holds, each⟩ := ih
      cases step with
      | @call i request next answer current promised =>
          have keeps := each i
          rw [current] at keeps
          obtain ⟨respects, rest⟩ := (keeps _ (Contract.later_self holds)).2 answer promised
          refine ⟨respects.invariant, fun j => ?_⟩
          by_cases same : j = i
          · subst same
            simpa only [Function.update_self] using rest
          · simp only [Function.update_of_ne same]
            exact (each j).later ⟨respects.invariant, respects.rely j same⟩
      | @exit i status current =>
          have keeps := each i
          rw [current] at keeps
          have respects := keeps _ (Contract.later_self holds)
          refine ⟨respects.invariant, fun j => ?_⟩
          by_cases same : j = i
          · subst same
            simp only [Function.update_self]
            trivial
          · simp only [Function.update_of_ne same]
            exact (each j).later ⟨respects.invariant, respects.rely j same⟩

/-- So no process comes to a call that it may not make. -/
theorem System.may_of_run [DecidableEq ι] {start system : System ι Call Answer State}
    (holds : contract.invariant start.state)
    (each : ∀ i, Keeps shared contract i (fun _ _ => True) start.state (start.programs i))
    (run : Relation.ReflTransGen (Step shared) start system) {i : ι} {request : Call}
    {next : Answer request → Program Call Answer Unit}
    (current : system.programs i = .call request next) : contract.may i system.state request := by
  obtain ⟨holds, each⟩ := keeps_of_run holds each run
  have keeps := each i
  rw [current] at keeps
  exact (keeps _ (Contract.later_self holds)).1

end NetworkServices
