import NetworkServices.Ssh.ConnectionDataProperties

/-! What `parse_connection_data` takes its arguments for. The loop over the vector is a
reader of ports and user names, and only their order among each other matters to it. -/

set_option autoImplicit false

namespace NetworkServices.Ssh

/-- An argument that is not passed over; `unfinished` is a last `-p`. -/
inductive Argument where
  | port (text : CString)
  | user (text : CString)
  | unfinished
  deriving DecidableEq

def arguments : List CString → List Argument
  | [] => []
  | arg :: rest =>
      if (ascii "-p").isPrefixOf arg then
        if arg.length ≠ 2 then .port (arg.drop 2) :: arguments rest
        else
          match rest with
          | [] => [.unfinished]
          | text :: rest => .port text :: arguments rest
      else if separator ∈ arg then .user arg :: arguments rest
      else arguments rest

def Argument.port? : Argument → Option CString
  | .port text => some text
  | _ => none

def Argument.user? : Argument → Option CString
  | .user text => some text
  | _ => none

def ports (argv : List CString) : List CString :=
  (arguments argv).filterMap Argument.port?

def users (argv : List CString) : List CString :=
  (arguments argv).filterMap Argument.user?

def userName (text : CString) : CString :=
  text.takeWhile (· ≠ separator)

def hostName (text : CString) : CString :=
  text.drop ((userName text).length + 1)

instance (text : CString) : Decidable (ValidPort text) :=
  inferInstanceAs (Decidable (_ ∧ _))

def portValue (text : CString) : UInt16 :=
  (UInt64.ofInt (strtol text)).toUInt16

theorem portValue_toNat {text : CString} (valid : ValidPort text) :
    ((portValue text).toNat : Int) = strtol text := by
  obtain ⟨lower, upper⟩ := valid
  unfold portValue
  rw [UInt64.toNat_toUInt16, UInt64.ofInt, UInt64.toNat_ofNat']
  omega

def Argument.Accepted (environment : Environment) : Argument → Prop
  | .port text => ValidPort text
  | .user text =>
      userName text ≠ [] ∧ ∃ address, environment.getaddrinfo (hostName text) = .found address
  | .unfinished => False

/-- The end of a loop, whatever is printed. -/
def Control.quiet : Control → Control
  | .failed _ => .failed []
  | control => control

def quietly (result : Control × State) : Control × State :=
  (result.1.quiet, result.2)

def Argument.read (environment : Environment) (state : State) : Argument → Control × State
  | .port text =>
      if ValidPort text then (.finished, state.setPort (portValue text)) else (.failed [], state)
  | .user text => quietly (userArgument environment state text)
  | .unfinished => (.failed [], state)

def readAll (environment : Environment) : State → List Argument → Control × State
  | state, [] => (.finished, state)
  | state, argument :: rest =>
      match argument.read environment state with
      | (.finished, next) => readAll environment next rest
      | stopped => stopped

section Tokens

variable {arg : CString}

theorem arguments_attached (option : PortOption arg) (long : arg.length ≠ 2)
    (rest : List CString) : arguments (arg :: rest) = .port (arg.drop 2) :: arguments rest := by
  rw [arguments.eq_def]
  exact (if_pos option).trans (if_pos long)

theorem arguments_separate (option : PortOption arg) (short : arg.length = 2) (text : CString)
    (rest : List CString) : arguments (arg :: text :: rest) = .port text :: arguments rest := by
  rw [arguments]
  exact (if_pos option).trans (if_neg (not_not.mpr short))

theorem arguments_lone (option : PortOption arg) (short : arg.length = 2) :
    arguments [arg] = [.unfinished] := by
  rw [arguments]
  exact (if_pos option).trans (if_neg (not_not.mpr short))

theorem arguments_user (other : ¬ PortOption arg) (member : separator ∈ arg)
    (rest : List CString) : arguments (arg :: rest) = .user arg :: arguments rest := by
  rw [arguments.eq_def]
  exact (if_neg other).trans (if_pos member)

theorem arguments_ignored (other : ¬ PortOption arg) (plain : separator ∉ arg)
    (rest : List CString) : arguments (arg :: rest) = arguments rest := by
  rw [arguments.eq_def]
  exact (if_neg other).trans (if_neg plain)

end Tokens

section Reading

variable {environment : Environment} {state next : State} {argument : Argument}

theorem readAll_cons_of_finished (finished : argument.read environment state = (.finished, next))
    (rest : List Argument) :
    readAll environment state (argument :: rest) = readAll environment next rest := by
  rw [readAll, finished]

theorem readAll_cons_of_stopped (stopped : (argument.read environment state).1 ≠ .finished)
    (rest : List Argument) :
    readAll environment state (argument :: rest) = argument.read environment state := by
  rw [readAll]
  split
  · next finished => exact absurd (congrArg Prod.fst finished) stopped
  · rfl

theorem quiet_eq_finished {control : Control} : control.quiet = .finished ↔ control = .finished := by
  cases control with
  | finished | crashed => rfl
  | failed message => simp [Control.quiet]

theorem read_port_of_valid {text : CString} (valid : ValidPort text) :
    (Argument.port text).read environment state = (.finished, state.setPort (portValue text)) :=
  if_pos valid

theorem read_port_of_invalid {text : CString} (invalid : ¬ ValidPort text) :
    (Argument.port text).read environment state = (.failed [], state) :=
  if_neg invalid

theorem readAll_port_of_valid {text : CString} (valid : ValidPort text) (rest : List Argument) :
    readAll environment state (.port text :: rest) =
      readAll environment (state.setPort (portValue text)) rest :=
  readAll_cons_of_finished (read_port_of_valid valid) rest

theorem readAll_port_of_invalid {text : CString} (invalid : ¬ ValidPort text)
    (rest : List Argument) :
    readAll environment state (.port text :: rest) = (.failed [], state) := by
  rw [readAll, read_port_of_invalid invalid]

theorem portNumber_eq_ok {invalid text : CString} {port : UInt16}
    (accepted : portNumber invalid text = .ok port) : port = portValue text := by
  rcases portNumber_cases invalid text with valid | refused
  · rw [valid.2] at accepted
    exact (Except.ok.inj accepted).symm
  · rw [refused.2] at accepted
    cases accepted

theorem argumentLoop_reads (environment : Environment) (state : State) (argv : List CString) :
    quietly (argumentLoop environment state argv) =
      readAll environment state (arguments argv) := by
  fun_induction argumentLoop environment state argv with
  | case1 state => rfl
  | case2 state arg rest option long message refused =>
      rw [arguments_attached option long, readAll_port_of_invalid (portNumber_error_of refused)]
      rfl
  | case3 state arg rest option long port accepted ih =>
      rw [arguments_attached option long, readAll_port_of_valid (portNumber_ok_of accepted),
        ← portNumber_eq_ok accepted]
      exact ih
  | case4 state arg option short =>
      rw [arguments_lone option (not_not.mp short)]
      rfl
  | case5 state arg option short text rest message refused =>
      rw [arguments_separate option (not_not.mp short),
        readAll_port_of_invalid (portNumber_error_of refused)]
      rfl
  | case6 state arg option short text rest port accepted ih =>
      rw [arguments_separate option (not_not.mp short),
        readAll_port_of_valid (portNumber_ok_of accepted), ← portNumber_eq_ok accepted]
      exact ih
  | case7 state arg rest other member next finished ih =>
      have read : (Argument.user arg).read environment state = (.finished, next) := by
        rw [Argument.read, finished]
        rfl
      rw [arguments_user other member, readAll_cons_of_finished read]
      exact ih
  | case8 state arg rest other member stopped =>
      have read : ((Argument.user arg).read environment state).1 ≠ .finished := by
        intro finished
        exact stopped _ (Prod.ext (quiet_eq_finished.mp finished) rfl)
      rw [arguments_user other member, readAll_cons_of_stopped read]
      rfl
  | case9 state arg rest other plain ih =>
      rw [arguments_ignored other plain]
      exact ih

/-!
## What one argument does
-/

def State.setUser (environment : Environment) (state : State) (text : CString)
    (address : UInt32) : State where
  cd :=
    { state.cd with
      username := .stored ⟨environment.malloc.result state.mallocs, userName text⟩
      address := .stored address }
  required := state.required &&& ~~~CD_USERNAME &&& ~~~CD_ADDRESS
  mallocs := state.mallocs + 1
  events := state.events ++ [.malloc (environment.malloc.result state.mallocs)]

inductive Step (environment : Environment) (state : State) : Argument → State → Prop where
  | port {text : CString} :
      ValidPort text → Step environment state (.port text) (state.setPort (portValue text))
  | user {text : CString} {address : UInt32} :
      userName text ≠ [] → environment.malloc.result state.mallocs ≠ 0 →
      environment.getaddrinfo (hostName text) = .found address →
      Step environment state (.user text) (state.setUser environment text address)

theorem userArgument_finished_iff {text : CString} :
    userArgument environment state text = (.finished, next) ↔
      Step environment state (.user text) next := by
  constructor
  · intro finished
    unfold userArgument at finished
    dsimp only at finished
    split at finished
    · cases finished
    · next named =>
        split at finished
        · cases finished
        · next allocated =>
            split at finished
            · cases finished
            · cases finished
            · next found =>
                cases finished
                exact .user named allocated found
  · intro step
    cases step with
    | user named allocated found =>
        have named' : ¬ text.takeWhile (· ≠ separator) = [] := named
        have found' : environment.getaddrinfo
            (text.drop ((text.takeWhile (· ≠ separator)).length + 1)) = .found _ := found
        unfold userArgument
        simp only [if_neg named', if_neg allocated, found']
        rfl

theorem read_finished_iff :
    argument.read environment state = (.finished, next) ↔ Step environment state argument next := by
  cases argument with
  | unfinished =>
      refine iff_of_false (fun read => by cases read) fun step => ?_
      cases step
  | port text =>
      cases Decidable.em (ValidPort text) with
      | inl valid =>
          rw [read_port_of_valid valid]
          refine ⟨fun same => ?_, fun step => ?_⟩
          · cases same
            exact .port valid
          · cases step with
            | port => rfl
      | inr invalid =>
          rw [read_port_of_invalid invalid]
          refine iff_of_false (fun same => by cases same) fun step => ?_
          cases step with
          | port valid => exact invalid valid
  | user text =>
      rw [← userArgument_finished_iff, Argument.read, quietly, Prod.ext_iff, Prod.ext_iff,
        quiet_eq_finished]

theorem Step.accepted (step : Step environment state argument next) :
    argument.Accepted environment := by
  cases step with
  | port valid => exact valid
  | user named _ found => exact ⟨named, _, found⟩

end Reading

end NetworkServices.Ssh
