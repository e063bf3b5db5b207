import NetworkServices.Ssh.ArgumentsProperties

/-! The name of the program is the first argument the loop looks at, so that a result can depend
on it. Two names have the same results when the loop takes them for the same. -/

set_option autoImplicit false

namespace NetworkServices.Ssh

/-- What the loop takes the name of a program for. -/
inductive Effect where
  | passed
  | refused
  | port (value : UInt16)
  | option
  | user (text : CString)
  deriving DecidableEq

def effect (program : CString) : Effect :=
  if (ascii "-p").isPrefixOf program then
    if program.length = 2 then .option
    else if ValidPort (program.drop 2) then .port (portValue (program.drop 2))
    else .refused
  else if separator ∈ program then
    if userName program = [] then .refused else .user program
  else .passed

/-- The port of a lone `-p` in front of the arguments is the first of them. -/
def optionArguments : List CString → List Argument
  | [] => [.unfinished]
  | text :: rest => .port text :: arguments rest

def Effect.read (environment : Environment) (state : State) (args : List CString) :
    Effect → Control × State
  | .passed => readAll environment state (arguments args)
  | .refused => (.failed [], state)
  | .port value => readAll environment (state.setPort value) (arguments args)
  | .option => readAll environment state (optionArguments args)
  | .user text => readAll environment state (.user text :: arguments args)

def Outcome.contents (outcome : Outcome) : Option Contents :=
  outcome.result.map fun allocated => allocated.cd.contents

/-- Nothing that a caller gets depends on which of the two the program is called. -/
def Interchangeable (first second : CString) : Prop :=
  ∀ (environment : Environment) (args : List CString) (required : UInt32),
    (parse_connection_data environment (first :: args) required).contents =
      (parse_connection_data environment (second :: args) required).contents

section Reading

variable {environment : Environment} {state : State}

theorem read_nameless {text : CString} (nameless : userName text = []) :
    (Argument.user text).read environment state = (.failed [], state) := by
  have nameless' : text.takeWhile (· ≠ separator) = [] := nameless
  unfold Argument.read quietly userArgument
  simp only [if_pos nameless', Control.quiet]

theorem readAll_program (environment : Environment) (state : State) (program : CString)
    (args : List CString) :
    readAll environment state (arguments (program :: args)) =
      (effect program).read environment state args := by
  fun_cases effect program with
  | case1 option short =>
      cases args with
      | nil =>
          rw [arguments_lone option short]
          rfl
      | cons text rest =>
          rw [arguments_separate option short]
          rfl
  | case2 option long valid =>
      rw [arguments_attached option long, readAll_port_of_valid valid]
      rfl
  | case3 option long invalid =>
      rw [arguments_attached option long, readAll_port_of_invalid invalid]
      rfl
  | case4 other member nameless =>
      rw [arguments_user other member, readAll, read_nameless nameless]
      rfl
  | case5 other member named =>
      rw [arguments_user other member]
      rfl
  | case6 other plain =>
      rw [arguments_ignored other plain]
      rfl

theorem interchangeable_of_effect {first second : CString} (same : effect first = effect second) :
    Interchangeable first second := by
  intro environment args required
  unfold Outcome.contents
  have result : (parse_connection_data environment (first :: args) required).result =
      (parse_connection_data environment (second :: args) required).result := by
    refine Option.ext fun allocated => ?_
    rw [parse_eq_some_iff, parse_eq_some_iff, readAll_program, readAll_program, same]
    rfl
  rw [result]

end Reading

/-!
## Telling two names apart
-/

def verdict : Control × State → Option Contents
  | (.finished, state) => if state.required = 0 then some state.cd.contents else none
  | _ => none

theorem verdict_of_cleared {state : State} (cleared : state.required = 0) :
    verdict (.finished, state) = some state.cd.contents :=
  if_pos cleared

theorem verdict_of_required {state : State} (required : state.required ≠ 0) :
    verdict (.finished, state) = none :=
  if_neg required

section Observation

variable {environment : Environment} {required : UInt32} {program : CString}

theorem verdict_eq_some_iff {result : Control × State} {contents : Contents} :
    verdict result = some contents ↔
      ∃ state, result = (.finished, state) ∧ state.required = 0 ∧ state.cd.contents = contents := by
  obtain ⟨control, state⟩ := result
  cases control with
  | finished => simp [verdict]
  | failed | crashed => simp [verdict]

theorem contents_eq_verdict (block : environment.malloc.result 0 ≠ 0) (program arg : CString)
    (args : List CString) :
    (parse_connection_data environment (program :: arg :: args) required).contents =
      verdict ((effect program).read environment (.start environment required) (arg :: args)) := by
  refine Option.ext fun contents => ?_
  have many : 2 ≤ (program :: arg :: args).length := Nat.le_add_left 2 args.length
  unfold Outcome.contents
  rw [verdict_eq_some_iff, Option.map_eq_some_iff]
  constructor
  · intro returned
    obtain ⟨allocated, returned, same⟩ := returned
    obtain ⟨-, -, state, finished, cleared, rfl⟩ := parse_eq_some_iff.mp returned
    rw [readAll_program] at finished
    exact ⟨state, finished, cleared, same⟩
  · intro finished
    obtain ⟨state, finished, cleared, same⟩ := finished
    rw [← readAll_program] at finished
    exact ⟨_, parse_eq_some_iff.mpr ⟨many, block, state, finished, cleared, rfl⟩, same⟩

end Observation

/-- What is returned when an argument follows that is passed over, and nothing is required. -/
def Effect.observed (address : CString → UInt32) : Effect → Option Contents
  | .passed => some ⟨none, none, 22⟩
  | .refused | .option => none
  | .port value => some ⟨none, none, value⟩
  | .user text => some ⟨some (userName text), some (address (hostName text)), 22⟩

section Probes

variable (address : CString → UInt32) {program : CString}

theorem effect_user {text : CString} (user : effect program = .user text) :
    text = program ∧ separator ∈ program ∧ userName program ≠ [] := by
  unfold effect at user
  split at user
  · split at user
    · cases user
    · split at user <;> cases user
  · split at user
    · next member =>
        split at user
        · cases user
        · next named => exact ⟨(Effect.user.inj user).symm, member, named⟩
    · cases user

theorem read_user {address : CString → UInt32} {state : State} {text : CString}
    (named : userName text ≠ []) :
    (Effect.user text).read (.counting fun host => .found (address host)) state [ascii "x"] =
      (.finished, state.setUser (.counting fun host => .found (address host)) text
        (address (hostName text))) := by
  have step : Step (.counting fun host => .found (address host)) state (.user text)
      (state.setUser _ text (address (hostName text))) :=
    .user named (Nat.succ_ne_zero state.mallocs) rfl
  exact readAll_cons_of_finished (read_finished_iff.mpr step) []

theorem contents_idle (program : CString) :
    (parse_connection_data (.counting fun host => .found (address host)) [program, ascii "x"]
      0).contents = (effect program).observed address := by
  have noPort : (0 : UInt32) &&& ~~~CD_PORT = 0 := by decide
  have noUser : (0 : UInt32) &&& ~~~CD_USERNAME &&& ~~~CD_ADDRESS = 0 := by decide
  rw [contents_eq_verdict (Nat.succ_ne_zero 0)]
  cases taken : effect program with
  | passed | refused | option => rfl
  | port value => exact verdict_of_cleared noPort
  | user text =>
      obtain ⟨rfl, -, named⟩ := effect_user taken
      rw [read_user named]
      exact verdict_of_cleared noUser

theorem contents_port (program : CString) :
    (parse_connection_data (.counting fun _ => .found 0) [program, ascii "x"] CD_PORT).contents ≠
      none ↔ ∃ value, effect program = .port value := by
  have port : CD_PORT &&& ~~~CD_PORT = 0 := by decide
  have noUser : CD_PORT &&& ~~~CD_USERNAME &&& ~~~CD_ADDRESS ≠ 0 := by decide
  rw [contents_eq_verdict (Nat.succ_ne_zero 0)]
  cases taken : effect program with
  | port value =>
      refine iff_of_true ?_ ⟨value, rfl⟩
      have found : verdict ((Effect.port value).read (.counting fun _ => .found 0)
          (.start (.counting fun _ => .found 0) CD_PORT) [ascii "x"]) = some ⟨none, none, value⟩ :=
        verdict_of_cleared port
      rw [found]
      exact Option.some_ne_none _
  | passed | refused | option =>
      refine iff_of_false (not_not.mpr rfl) fun some => ?_
      obtain ⟨_, same⟩ := some
      cases same
  | user text =>
      obtain ⟨rfl, -, named⟩ := effect_user taken
      refine iff_of_false (not_not.mpr ?_) fun some => ?_
      · rw [read_user named]
        exact verdict_of_required noUser
      · obtain ⟨_, same⟩ := some
        cases same

theorem contents_refused (refused : effect program = .refused) :
    (parse_connection_data (.counting fun _ => .found 0) [program, ascii "22"] 0).contents =
      none := by
  rw [contents_eq_verdict (Nat.succ_ne_zero 0), refused]
  rfl

theorem contents_option (option : effect program = .option) :
    (parse_connection_data (.counting fun _ => .found 0) [program, ascii "22"] 0).contents =
      some ⟨none, none, 22⟩ := by
  have valid : ValidPort (ascii "22") := by decide
  have noPort : (0 : UInt32) &&& ~~~CD_PORT = 0 := by decide
  have read : (Effect.option).read (.counting fun _ => .found 0)
      (.start (.counting fun _ => .found 0) 0) [ascii "22"] =
        (.finished, (State.start (.counting fun _ => .found 0) 0).setPort (portValue (ascii "22"))) := by
    rw [Effect.read, optionArguments, readAll_port_of_valid valid]
    rfl
  have value : portValue (ascii "22") = 22 := by decide
  rw [contents_eq_verdict (Nat.succ_ne_zero 0), option, read, verdict_of_cleared noPort, value]
  rfl

end Probes

theorem userName_append_hostName {text : CString} (member : separator ∈ text) :
    userName text ++ separator :: hostName text = text := by
  induction text with
  | nil => cases member
  | cons char rest ih =>
      cases decEq char separator with
      | isTrue same =>
          rw [same]
          rfl
      | isFalse other =>
          have later : separator ∈ rest := by
            rcases List.mem_cons.mp member with first | later
            · exact absurd first.symm other
            · exact later
          have name : userName (char :: rest) = char :: userName rest :=
            List.takeWhile_cons_of_pos (by simpa using other)
          have host : hostName (char :: rest) = hostName rest := by
            rw [hostName, name]
            rfl
          rw [name, host, List.cons_append, ih later]

theorem eq_of_observed_user {first second : CString} (member : separator ∈ first)
    (otherMember : separator ∈ second)
    (same : ∀ address, (Effect.user first).observed address =
      (Effect.user second).observed address) : first = second := by
  have observed := same fun host => if host = hostName first then 1 else 0
  simp only [Effect.observed, if_pos, Option.some.injEq, Contents.mk.injEq] at observed
  obtain ⟨name, host, -⟩ := observed
  split at host
  · next sameHost =>
      rw [← userName_append_hostName member, ← userName_append_hostName otherMember, name, sameHost]
  · cases host

theorem effect_of_interchangeable {first second : CString}
    (same : Interchangeable first second) : effect first = effect second := by
  have observed {one other : Effect} (taken : effect first = one)
      (otherTaken : effect second = other) (address : CString → UInt32) :
      one.observed address = other.observed address := by
    rw [← taken, ← otherTaken, ← contents_idle, ← contents_idle]
    exact same _ _ _
  have port : (∃ value, effect first = .port value) ↔ ∃ value, effect second = .port value := by
    rw [← contents_port, ← contents_port, same]
  have number := same (.counting fun _ => .found 0) [ascii "22"] 0
  cases taken : effect first with
  | port value =>
      obtain ⟨other, otherTaken⟩ := port.mp ⟨value, taken⟩
      cases observed taken otherTaken fun _ => 0
      exact otherTaken.symm
  | passed =>
      cases otherTaken : effect second with
      | passed => rfl
      | port other =>
          obtain ⟨_, wrong⟩ := port.mpr ⟨other, otherTaken⟩
          cases taken.symm.trans wrong
      | refused | option | user => cases observed taken otherTaken fun _ => 0
  | refused =>
      cases otherTaken : effect second with
      | refused => rfl
      | option =>
          rw [contents_refused taken, contents_option otherTaken] at number
          cases number
      | passed | port | user => cases observed taken otherTaken fun _ => 0
  | option =>
      cases otherTaken : effect second with
      | option => rfl
      | refused =>
          rw [contents_option taken, contents_refused otherTaken] at number
          cases number
      | passed | port | user => cases observed taken otherTaken fun _ => 0
  | user text =>
      cases otherTaken : effect second with
      | user other =>
          have alike := observed taken otherTaken
          obtain ⟨rfl, member, -⟩ := effect_user taken
          obtain ⟨rfl, otherMember, -⟩ := effect_user otherTaken
          rw [eq_of_observed_user member otherMember alike]
      | port value =>
          obtain ⟨_, wrong⟩ := port.mpr ⟨value, otherTaken⟩
          cases taken.symm.trans wrong
      | passed | refused | option => cases observed taken otherTaken fun _ => 0

/-- Two names are interchangeable exactly when the loop takes them for the same. -/
theorem interchangeable_iff (first second : CString) :
    Interchangeable first second ↔ effect first = effect second := by
  constructor
  · intro same
    exact effect_of_interchangeable same
  · intro same
    exact interchangeable_of_effect same

def onlyServer (host : CString) : Resolution :=
  if host = ascii "server" then .found 16777343 else .failed (ascii "Name or service not known")

/-- Installed in a directory with an `@` in its name, the program refuses every command line. -/
theorem directory_name_refused :
    (parse_connection_data (.counting onlyServer) [ascii "sftp_get", ascii "alice@server"]
        (CD_ADDRESS ||| CD_USERNAME)).contents = some ⟨some (ascii "alice"), some 16777343, 22⟩ ∧
      (parse_connection_data (.counting onlyServer)
        [ascii "/opt/ssh@lab/sftp_get", ascii "alice@server"]
        (CD_ADDRESS ||| CD_USERNAME)).contents = none ∧
      ¬ Interchangeable (ascii "sftp_get") (ascii "/opt/ssh@lab/sftp_get") := by
  have returned : (parse_connection_data (.counting onlyServer)
      [ascii "sftp_get", ascii "alice@server"] (CD_ADDRESS ||| CD_USERNAME)).contents =
        some ⟨some (ascii "alice"), some 16777343, 22⟩ := by decide
  have refused : (parse_connection_data (.counting onlyServer)
      [ascii "/opt/ssh@lab/sftp_get", ascii "alice@server"] (CD_ADDRESS ||| CD_USERNAME)).contents =
        none := by decide
  refine ⟨returned, refused, fun same => ?_⟩
  have equal := same (.counting onlyServer) [ascii "alice@server"] (CD_ADDRESS ||| CD_USERNAME)
  rw [returned, refused] at equal
  cases equal

end NetworkServices.Ssh
