/-! Programs that call what lies outside of them. A program is the tree of its calls, with a
branch for each answer. An interface says what the caller has to keep to and what the callee
promises, both in terms of a state that the calls change. -/

set_option autoImplicit false

namespace NetworkServices

inductive ExitStatus where
  | success
  | failure
  deriving DecidableEq

/-- `cut` is where a loop without a bound is left after the passes it was given. -/
inductive Program (Call : Type) (Answer : Call → Type) (Result : Type) where
  | done (result : Result)
  | exit (status : ExitStatus)
  | cut
  | call (request : Call) (next : Answer request → Program Call Answer Result)

variable {Call : Type} {Answer : Call → Type} {Result Middle State : Type}

namespace Program

def bind (program : Program Call Answer Middle) (next : Middle → Program Call Answer Result) :
    Program Call Answer Result :=
  match program with
  | done result => next result
  | exit status => exit status
  | cut => cut
  | call request later => call request fun answer => (later answer).bind next

instance : Monad (Program Call Answer) where
  pure := done
  bind := bind

theorem bind_done (program : Program Call Answer Result) : program.bind done = program := by
  induction program with
  | done result => rfl
  | exit status => rfl
  | cut => rfl
  | call request next ih => exact congrArg (call request) (funext ih)

theorem bind_bind {Inner : Type} (program : Program Call Answer Inner)
    (next : Inner → Program Call Answer Middle) (last : Middle → Program Call Answer Result) :
    (program.bind next).bind last = program.bind fun result => (next result).bind last := by
  induction program with
  | done result => rfl
  | exit status => rfl
  | cut => rfl
  | call request later ih => exact congrArg (call request) (funext ih)

instance : LawfulMonad (Program Call Answer) :=
  LawfulMonad.mk' _ bind_done (fun _ _ => rfl) bind_bind

/-- A call on its own. -/
def invoke (request : Call) : Program Call Answer (Answer request) :=
  call request done

def loop {Locals : Type} (body : Locals → Program Call Answer (Locals ⊕ Result)) :
    Nat → Locals → Program Call Answer Result
  | 0, _ => cut
  | passes + 1, locals =>
      (body locals).bind fun
        | .inl locals => loop body passes locals
        | .inr result => done result

end Program

/-- `may` is the duty of the caller and `promise` the one of the callee. -/
structure Interface (Call : Type) (Answer : Call → Type) (State : Type) where
  may : State → Call → Prop
  promise : State → (request : Call) → Answer request → Prop
  after : State → (request : Call) → Answer request → State

/-- A call with its answer. -/
structure Exchange (Call : Type) (Answer : Call → Type) where
  request : Call
  answer : Answer request

variable {interface : Interface Call Answer State}

/-- A run up to some point: the exchanges so far, the state behind them and what is left of the
program. Nothing is asked of the caller. -/
inductive Reaches (interface : Interface Call Answer State) :
    State → Program Call Answer Result → List (Exchange Call Answer) → State →
      Program Call Answer Result → Prop where
  | here {state : State} {program : Program Call Answer Result} :
      Reaches interface state program [] state program
  | step {state last : State} {request : Call} {answer : Answer request}
      {next : Answer request → Program Call Answer Result} {left : Program Call Answer Result}
      {trace : List (Exchange Call Answer)} :
      interface.promise state request answer →
      Reaches interface (interface.after state request answer) (next answer) trace last left →
      Reaches interface state (.call request next) (⟨request, answer⟩ :: trace) last left

/-- The interface with another duty for the caller. -/
def Interface.guard (interface : Interface Call Answer State) (may : State → Call → Prop) :
    Interface Call Answer State :=
  { interface with may }

/-- The interface with the events of the calls so far. -/
def Interface.record {Event : Type} (interface : Interface Call Answer State)
    (event : State → Exchange Call Answer → List Event) :
    Interface Call Answer (State × List Event) where
  may state := interface.may state.1
  promise state := interface.promise state.1
  after state request answer :=
    (interface.after state.1 request answer, state.2 ++ event state.1 ⟨request, answer⟩)

/-- Every run has its events. -/
theorem Reaches.record {Event : Type} {event : State → Exchange Call Answer → List Event}
    {state last : State} {program left : Program Call Answer Result}
    {trace : List (Exchange Call Answer)} (run : Reaches interface state program trace last left)
    (events : List Event) : ∃ later, Reaches (interface.record event) (state, events) program trace
      (last, events ++ later) left := by
  induction run generalizing events with
  | here =>
      refine ⟨[], ?_⟩
      rw [List.append_nil]
      exact .here
  | step promised _ ih =>
      obtain ⟨later, run⟩ := ih (events ++ event _ ⟨_, _⟩)
      rw [List.append_assoc] at run
      exact ⟨_, .step promised run⟩

/-- The runs do not depend on the duty, so any property of the state in front of a call can be
proved as the duty for that call. -/
theorem Reaches.guard {state last : State} {program left : Program Call Answer Result}
    {trace : List (Exchange Call Answer)} (run : Reaches interface state program trace last left)
    (may : State → Call → Prop) : Reaches (interface.guard may) state program trace last left := by
  induction run with
  | here => exact .here
  | step promised _ ih => exact .step promised ih

/-- The run of at most `calls` calls that an environment makes by its answers, up to a call that it
does not answer. -/
def Interface.follow (interface : Interface Call Answer State)
    (environment : State → (request : Call) → Option (Answer request)) :
    Nat → State → Program Call Answer Result →
      List (Exchange Call Answer) × State × Program Call Answer Result
  | calls + 1, state, .call request next =>
      match environment state request with
      | none => ([], state, .call request next)
      | some answer =>
          let followed := interface.follow environment calls (interface.after state request answer)
            (next answer)
          (⟨request, answer⟩ :: followed.1, followed.2)
  | _, state, program => ([], state, program)

theorem Interface.reaches_follow
    {environment : State → (request : Call) → Option (Answer request)}
    (honest : ∀ state request answer, environment state request = some answer →
      interface.promise state request answer)
    (calls : Nat) (state : State) (program : Program Call Answer Result) :
    Reaches interface state program (interface.follow environment calls state program).1
      (interface.follow environment calls state program).2.1
      (interface.follow environment calls state program).2.2 := by
  induction calls generalizing state program with
  | zero =>
      cases program <;> exact .here
  | succ calls ih =>
      cases program with
      | done result => exact .here
      | exit status => exact .here
      | cut => exact .here
      | call request next =>
          rw [Interface.follow]
          cases answered : environment state request with
          | none => exact .here
          | some answer => exact .step (honest state request answer answered) (ih _ _)

/-- The run with an environment that answers every call. -/
def Interface.play (interface : Interface Call Answer State)
    (environment : State → (request : Call) → Answer request) :
    Nat → State → Program Call Answer Result →
      List (Exchange Call Answer) × State × Program Call Answer Result :=
  interface.follow fun state request => some (environment state request)

theorem Interface.reaches_play {environment : State → (request : Call) → Answer request}
    (honest : ∀ state request, interface.promise state request (environment state request))
    (calls : Nat) (state : State) (program : Program Call Answer Result) :
    Reaches interface state program (interface.play environment calls state program).1
      (interface.play environment calls state program).2.1
      (interface.play environment calls state program).2.2 := by
  refine Interface.reaches_follow ?_ calls state program
  intro state request answer answered
  cases answered
  exact honest state request

/-- What a program keeps to whatever it is answered: its calls are allowed, and where it ends
the state is as required. -/
def Meets (interface : Interface Call Answer State) (ended : State → ExitStatus → Prop)
    (post : State → Result → Prop) : State → Program Call Answer Result → Prop
  | state, .done result => post state result
  | state, .exit status => ended state status
  | _, .cut => True
  | state, .call request next => interface.may state request ∧ ∀ answer,
      interface.promise state request answer →
        Meets interface ended post (interface.after state request answer) (next answer)

section Rules

variable {ended : State → ExitStatus → Prop} {post : State → Result → Prop} {state : State}

@[simp] theorem meets_done {result : Result} :
    Meets interface ended post state (.done result) ↔ post state result := Iff.rfl

@[simp] theorem meets_pure {result : Result} :
    Meets interface ended post state (pure result) ↔ post state result := Iff.rfl

@[simp] theorem meets_exit {status : ExitStatus} :
    Meets interface ended post state (.exit status) ↔ ended state status := Iff.rfl

theorem meets_cut : Meets interface ended post state .cut := trivial

theorem meets_call {request : Call} {next : Answer request → Program Call Answer Result} :
    Meets interface ended post state (.call request next) ↔
      interface.may state request ∧ ∀ answer, interface.promise state request answer →
        Meets interface ended post (interface.after state request answer) (next answer) := Iff.rfl

theorem meets_invoke {request : Call} {post : State → Answer request → Prop} :
    Meets interface ended post state (.invoke request) ↔
      interface.may state request ∧ ∀ answer, interface.promise state request answer →
        post (interface.after state request answer) answer := Iff.rfl

/-- A program in front of another one has to establish what the other one starts from. -/
theorem meets_bind {program : Program Call Answer Middle}
    {next : Middle → Program Call Answer Result} :
    Meets interface ended post state (program >>= next) ↔
      Meets interface ended (fun state result => Meets interface ended post state (next result))
        state program := by
  show Meets interface ended post state (program.bind next) ↔ _
  induction program generalizing state with
  | done result => rfl
  | exit status => rfl
  | cut => rfl
  | call request later ih =>
      simp only [Program.bind, meets_call, ih]

theorem Meets.mono {weaker : State → ExitStatus → Prop} {other : State → Result → Prop}
    {program : Program Call Answer Result} (meets : Meets interface ended post state program)
    (exits : ∀ state status, ended state status → weaker state status)
    (implies : ∀ state result, post state result → other state result) :
    Meets interface weaker other state program := by
  induction program generalizing state with
  | done result => exact implies state result meets
  | exit status => exact exits state status meets
  | cut => exact meets_cut
  | call request next ih =>
      obtain ⟨allowed, answered⟩ := meets
      exact ⟨allowed, fun answer promised => ih answer (answered answer promised)⟩

/-- The rule of sequence, with what holds between the two programs named. -/
theorem Meets.bind {between : State → Middle → Prop} {program : Program Call Answer Middle}
    {next : Middle → Program Call Answer Result}
    (first : Meets interface ended between state program)
    (second : ∀ state result, between state result →
      Meets interface ended post state (next result)) :
    Meets interface ended post state (program >>= next) :=
  meets_bind.mpr (first.mono (fun _ _ ended => ended) second)

/-- The rule of sequence where the first program exits for reasons of its own. -/
theorem Meets.sequence {between : State → Middle → Prop} {exits : State → ExitStatus → Prop}
    {program : Program Call Answer Middle} {next : Middle → Program Call Answer Result}
    (first : Meets interface exits between state program)
    (left : ∀ state status, exits state status → ended state status)
    (second : ∀ state result, between state result →
      Meets interface ended post state (next result)) :
    Meets interface ended post state (program >>= next) :=
  meets_bind.mpr (first.mono left second)

/-- The rule of loops: an invariant that each pass keeps or gives up for the result. -/
theorem meets_loop {Locals : Type}
    {body : Locals → Program Call Answer (Locals ⊕ Result)}
    (invariant : State → Locals → Prop)
    (pass : ∀ state locals, invariant state locals →
      Meets interface ended (fun state => Sum.elim (invariant state) (post state)) state
        (body locals))
    {locals : Locals} (start : invariant state locals) (passes : Nat) :
    Meets interface ended post state (.loop body passes locals) := by
  induction passes generalizing state locals with
  | zero => exact meets_cut
  | succ passes ih =>
      refine Meets.bind (pass state locals start) ?_
      intro state outcome holds
      cases outcome with
      | inl locals => exact ih holds
      | inr result => exact holds

/-- What a program meets, its rest meets at every point of a run. -/
theorem Meets.reaches {program left : Program Call Answer Result} {last : State}
    {trace : List (Exchange Call Answer)} (meets : Meets interface ended post state program)
    (run : Reaches interface state program trace last left) :
    Meets interface ended post last left := by
  induction run with
  | here => exact meets
  | step promised _ ih =>
      obtain ⟨_, answered⟩ := meets
      exact ih (answered _ promised)

end Rules

/-- A program that has a reason for each exit with a failure: an answer that excuses it. Of a run
without such an answer the result is as required. -/
def Justified (excuses : Exchange Call Answer → Prop) (post : Result → Prop) :
    Program Call Answer Result → Prop
  | .done result => post result
  | .exit status => status = .success
  | .cut => True
  | .call request next => ∀ answer, excuses ⟨request, answer⟩ ∨
      Justified excuses post (next answer)

section Justified

variable {excuses : Exchange Call Answer → Prop} {post : Result → Prop}

theorem justified_ask {request : Call} {next : Answer request → Program Call Answer Result}
    (later : ∀ answer, Justified excuses post (next answer)) :
    Justified excuses post (Program.invoke request >>= next) :=
  fun answer => .inr (later answer)

theorem Justified.bind {between : Middle → Prop} {program : Program Call Answer Middle}
    {next : Middle → Program Call Answer Result} (first : Justified excuses between program)
    (second : ∀ result, between result → Justified excuses post (next result)) :
    Justified excuses post (program >>= next) := by
  show Justified excuses post (program.bind next)
  induction program with
  | done result => exact second result first
  | exit status => exact first
  | cut => trivial
  | call request later ih => exact fun answer => (first answer).imp_right (ih answer)

theorem justified_loop {Locals : Type} {body : Locals → Program Call Answer (Locals ⊕ Result)}
    (pass : ∀ locals, Justified excuses (Sum.elim (fun _ => True) post) (body locals))
    (passes : Nat) (locals : Locals) : Justified excuses post (.loop body passes locals) := by
  induction passes generalizing locals with
  | zero => trivial
  | succ passes ih =>
      refine Justified.bind (pass locals) ?_
      intro outcome holds
      cases outcome with
      | inl locals => exact ih locals
      | inr result => exact holds

theorem Justified.reaches {state last : State} {program left : Program Call Answer Result}
    {trace : List (Exchange Call Answer)} (justified : Justified excuses post program)
    (run : Reaches interface state program trace last left) :
    (∃ exchange ∈ trace, excuses exchange) ∨ Justified excuses post left := by
  induction run with
  | here => exact .inr justified
  | step promised run ih =>
      rcases justified _ with excused | rest
      · exact .inl ⟨_, .head _, excused⟩
      · exact (ih rest).imp_left fun ⟨exchange, member, excused⟩ =>
          ⟨exchange, .tail _ member, excused⟩

/-- Behind an exit with a failure there is its reason in the run. -/
theorem Justified.failure {state last : State} {program : Program Call Answer Result}
    {trace : List (Exchange Call Answer)} (justified : Justified excuses post program)
    (run : Reaches interface state program trace last (.exit .failure)) :
    ∃ exchange ∈ trace, excuses exchange := by
  rcases justified.reaches run with excused | rest
  · exact excused
  · cases rest

end Justified

/-- What holds of the state wherever a program is cut, and of its results. -/
def Suspends (interface : Interface Call Answer State) (suspended : State → Prop)
    (post : State → Result → Prop) : State → Program Call Answer Result → Prop
  | state, .done result => post state result
  | _, .exit _ => True
  | state, .cut => suspended state
  | state, .call request next => ∀ answer, interface.promise state request answer →
      Suspends interface suspended post (interface.after state request answer) (next answer)

section Suspends

variable {suspended : State → Prop} {post : State → Result → Prop} {state : State}

theorem suspends_bind {program : Program Call Answer Middle}
    {next : Middle → Program Call Answer Result} :
    Suspends interface suspended post state (program >>= next) ↔
      Suspends interface suspended
        (fun state result => Suspends interface suspended post state (next result)) state
        program := by
  show Suspends interface suspended post state (program.bind next) ↔ _
  induction program generalizing state with
  | done result => rfl
  | exit status => rfl
  | cut => rfl
  | call request later ih =>
      simp only [Program.bind, Suspends, ih]

theorem Suspends.mono {other : State → Result → Prop} {program : Program Call Answer Result}
    (suspends : Suspends interface suspended post state program)
    (implies : ∀ state result, post state result → other state result) :
    Suspends interface suspended other state program := by
  induction program generalizing state with
  | done result => exact implies state result suspends
  | exit status => trivial
  | cut => exact suspends
  | call request next ih =>
      exact fun answer promised => ih answer (suspends answer promised)

theorem Suspends.bind {between : State → Middle → Prop} {program : Program Call Answer Middle}
    {next : Middle → Program Call Answer Result}
    (first : Suspends interface suspended between state program)
    (second : ∀ state result, between state result →
      Suspends interface suspended post state (next result)) :
    Suspends interface suspended post state (program >>= next) :=
  suspends_bind.mpr (first.mono second)

/-- A program that is nowhere cut. -/
def Program.Whole : Program Call Answer Result → Prop
  | .done _ | .exit _ => True
  | .cut => False
  | .call _ next => ∀ answer, (next answer).Whole

theorem Program.Whole.bind {program : Program Call Answer Middle}
    {next : Middle → Program Call Answer Result} (whole : program.Whole)
    (later : ∀ result, (next result).Whole) : Program.Whole (program >>= next) := by
  show (program.bind next).Whole
  induction program with
  | done result => exact later result
  | exit status => trivial
  | cut => exact whole.elim
  | call request after ih => exact fun answer => ih answer (whole answer)

theorem Program.Whole.suspends {program : Program Call Answer Result} (whole : program.Whole) :
    Suspends interface suspended (fun _ _ => True) state program := by
  induction program generalizing state with
  | done result => trivial
  | exit status => trivial
  | cut => exact whole.elim
  | call request next ih => exact fun answer _ => ih answer (whole answer)

/-- What a program meets at its end, whatever its duty was. -/
theorem Meets.suspends {may : State → Call → Prop} {ended : State → ExitStatus → Prop}
    {program : Program Call Answer Result}
    (meets : Meets (interface.guard may) ended post state program) (whole : program.Whole) :
    Suspends interface suspended post state program := by
  induction program generalizing state with
  | done result => exact meets
  | exit status => trivial
  | cut => exact whole.elim
  | call request next ih =>
      obtain ⟨_, answered⟩ := meets
      exact fun answer promised => ih answer (answered answer promised) (whole answer)

/-- An invariant that counts the passes which are left to a loop. -/
theorem suspends_loop {Locals : Type} {body : Locals → Program Call Answer (Locals ⊕ Result)}
    (invariant : Nat → State → Locals → Prop)
    (pass : ∀ passes state locals, invariant (passes + 1) state locals →
      Suspends interface suspended (fun state => Sum.elim (invariant passes state) (post state))
        state (body locals))
    (cut : ∀ state locals, invariant 0 state locals → suspended state)
    {passes : Nat} {locals : Locals} (start : invariant passes state locals) :
    Suspends interface suspended post state (.loop body passes locals) := by
  induction passes generalizing state locals with
  | zero => exact cut state locals start
  | succ passes ih =>
      refine Suspends.bind (pass passes state locals start) ?_
      intro state outcome holds
      cases outcome with
      | inl locals => exact ih holds
      | inr result => exact holds

theorem Suspends.reaches {program left : Program Call Answer Result} {last : State}
    {trace : List (Exchange Call Answer)}
    (suspends : Suspends interface suspended post state program)
    (run : Reaches interface state program trace last left) :
    Suspends interface suspended post last left := by
  induction run with
  | here => exact suspends
  | step promised _ ih => exact ih (suspends _ promised)

end Suspends

end NetworkServices
