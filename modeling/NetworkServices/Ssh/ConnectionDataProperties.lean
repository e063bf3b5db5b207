import NetworkServices.Ssh.ConnectionData

/-! What is freed on the error paths of the parser. The user name is a stray pointer until
an argument with a user name is reached, and every way out before that frees it. -/

set_option autoImplicit false

namespace NetworkServices.Ssh

def PortOption (arg : CString) : Prop :=
  (ascii "-p").isPrefixOf arg = true

def ValidPort (text : CString) : Prop :=
  1 ≤ strtol text ∧ strtol text ≤ 65535

/-- An argument with a user name is reached: in front of it there are valid ports, and
arguments that are ignored. -/
inductive NamesUser : List CString → Prop where
  | here {arg : CString} {rest : List CString} :
      ¬ PortOption arg → separator ∈ arg → arg.head? ≠ some separator → NamesUser (arg :: rest)
  | attached {arg : CString} {rest : List CString} :
      PortOption arg → arg.length ≠ 2 → ValidPort (arg.drop 2) → NamesUser rest →
      NamesUser (arg :: rest)
  | separate {arg text : CString} {rest : List CString} :
      PortOption arg → arg.length = 2 → ValidPort text → NamesUser rest →
      NamesUser (arg :: text :: rest)
  | ignored {arg : CString} {rest : List CString} :
      ¬ PortOption arg → separator ∉ arg → NamesUser rest → NamesUser (arg :: rest)

def MemoryEvent.lifetime : MemoryEvent → Option (Lifetime Pointer)
  | malloc block => some (.acquired block)
  | free block => some (.released block)
  | test _ => none

/-- Nothing is tested that was not stored, and nothing is freed that was not allocated
or that was freed before. -/
structure Releases (events : List MemoryEvent) : Prop where
  initialised : ∀ username, .test username ∈ events → username.Initialised
  held : ReleasesHeld (events.filterMap MemoryEvent.lifetime)

/-- The same of the whole life of a result: the call and, later, its release. -/
def ReleasesAllocated (environment : Environment) (argv : List CString) (required : UInt32) :
    Prop :=
  Releases ((parse_connection_data environment argv required).events ++
    free_connection_data (parse_connection_data environment argv required).result)

/-!
## Ports
-/

/-- The check of the digits accepts everything. -/
theorem digitLoop_eq (i : Nat) (text : CString) : digitLoop i text = 5 := by
  induction text generalizing i with
  | nil => rfl
  | cons char rest ih =>
      rw [digitLoop, ih]
      split <;> rfl

theorem strtol_bounds (text : CString) :
    -9223372036854775808 ≤ strtol text ∧ strtol text ≤ 9223372036854775807 := by
  unfold strtol
  omega

theorem portNumber_cases (invalid text : CString) :
    (ValidPort text ∧ portNumber invalid text = .ok (UInt64.ofInt (strtol text)).toUInt16) ∨
      ¬ ValidPort text ∧
        portNumber invalid text = .error (invalidPort (UInt64.ofInt (strtol text))) := by
  obtain ⟨lower, upper⟩ := strtol_bounds text
  have number : (UInt64.ofInt (strtol text)).toNat = (strtol text % 18446744073709551616).toNat := by
    rw [UInt64.ofInt, UInt64.toNat_ofNat']
    omega
  have range : (UInt64.ofInt (strtol text) = 0 ∨ UInt64.ofInt (strtol text) > 65535) ↔
      ¬ ValidPort text := by
    rw [← UInt64.toNat_inj, gt_iff_lt, UInt64.lt_iff_toNat_lt, number, ValidPort]
    change _ = 0 ∨ 65535 < _ ↔ _
    omega
  have digits : ¬ ((5 : Nat) = 0 ∨ (5 : Nat) > 5) := by decide
  unfold portNumber
  simp only [digitLoop_eq, if_neg digits]
  by_cases valid : ValidPort text
  · exact .inl ⟨valid, if_neg fun wrong => range.mp wrong valid⟩
  · exact .inr ⟨valid, if_pos (range.mpr valid)⟩

theorem portNumber_error_of {invalid text message : CString}
    (refused : portNumber invalid text = .error message) : ¬ ValidPort text := by
  rcases portNumber_cases invalid text with accepted | rejected
  · rw [accepted.2] at refused
    cases refused
  · exact rejected.1

theorem portNumber_ok_of {invalid text : CString} {port : UInt16}
    (accepted : portNumber invalid text = .ok port) : ValidPort text := by
  rcases portNumber_cases invalid text with valid | rejected
  · exact valid.1
  · rw [rejected.2] at accepted
    cases accepted

/-!
## Reaching a user name
-/

section NamesUser

variable {arg text : CString} {rest : List CString}

theorem namesUser_attached_iff (option : PortOption arg) (long : arg.length ≠ 2) :
    NamesUser (arg :: rest) ↔ ValidPort (arg.drop 2) ∧ NamesUser rest := by
  refine ⟨fun names => ?_, fun ⟨valid, names⟩ => .attached option long valid names⟩
  cases names with
  | here other | ignored other => exact absurd option other
  | attached _ _ valid names => exact ⟨valid, names⟩
  | separate _ short => exact absurd short long

theorem namesUser_separate_iff (option : PortOption arg) (short : arg.length = 2) :
    NamesUser (arg :: text :: rest) ↔ ValidPort text ∧ NamesUser rest := by
  refine ⟨fun names => ?_, fun ⟨valid, names⟩ => .separate option short valid names⟩
  cases names with
  | here other | ignored other => exact absurd option other
  | attached _ long => exact absurd short long
  | separate _ _ valid names => exact ⟨valid, names⟩

theorem not_namesUser_lone (option : PortOption arg) (short : arg.length = 2) :
    ¬ NamesUser [arg] := by
  intro names
  cases names with
  | here other | ignored other => exact absurd option other
  | attached _ long => exact absurd short long

theorem namesUser_user_iff (other : ¬ PortOption arg) (member : separator ∈ arg) :
    NamesUser (arg :: rest) ↔ arg.head? ≠ some separator := by
  refine ⟨fun names => ?_, fun named => .here other member named⟩
  cases names with
  | here _ _ named => exact named
  | attached option | separate option => exact absurd option other
  | ignored _ plain => exact absurd member plain

theorem namesUser_ignored_iff (other : ¬ PortOption arg) (plain : separator ∉ arg) :
    NamesUser (arg :: rest) ↔ NamesUser rest := by
  refine ⟨fun names => ?_, fun names => .ignored other plain names⟩
  cases names with
  | here _ member => exact absurd member plain
  | attached option | separate option => exact absurd option other
  | ignored _ _ names => exact names

end NamesUser

/-!
## The argument with a user name
-/

theorem finished_ne_crashed : Control.finished ≠ .crashed := by decide

theorem failed_ne_crashed (message : CString) : Control.failed message ≠ .crashed := by
  intro same
  cases same

section Loop

variable {environment : Environment} {state : State}

inductive UserArgument (environment : Environment) (state : State) (arg : CString) :
    Control → State → Prop where
  | nameless (message : CString) :
      arg.head? = some separator → UserArgument environment state arg (.failed message) state
  | crashed :
      arg.head? ≠ some separator → environment.malloc.result state.mallocs = 0 →
      UserArgument environment state arg .crashed { state with mallocs := state.mallocs + 1 }
  | named {control : Control} {next : State} (text : CString) :
      arg.head? ≠ some separator → environment.malloc.result state.mallocs ≠ 0 →
      control ≠ .crashed →
      next.cd.username = .stored ⟨environment.malloc.result state.mallocs, text⟩ →
      next.mallocs = state.mallocs + 1 →
      next.events = state.events ++ [.malloc (environment.malloc.result state.mallocs)] →
      UserArgument environment state arg control next

theorem takeWhile_eq_nil_iff {arg : CString} (member : separator ∈ arg) :
    arg.takeWhile (· ≠ separator) = [] ↔ arg.head? = some separator := by
  cases arg with
  | nil => cases member
  | cons char rest =>
      rw [List.takeWhile_cons, List.head?_cons, Option.some.injEq]
      by_cases same : char = separator <;> simp [same]

theorem userArgument_spec (environment : Environment) (state : State) {arg : CString}
    (member : separator ∈ arg) :
    UserArgument environment state arg (userArgument environment state arg).1
      (userArgument environment state arg).2 := by
  have nameless := takeWhile_eq_nil_iff member
  unfold userArgument
  by_cases empty : arg.takeWhile (· ≠ separator) = []
  · simp only [if_pos empty]
    exact .nameless _ (nameless.mp empty)
  · have named := mt nameless.mpr empty
    simp only [if_neg empty]
    by_cases null : environment.malloc.result state.mallocs = 0
    · simp only [if_pos null]
      exact .crashed named null
    · simp only [if_neg null]
      split
      · exact .named _ named null (failed_ne_crashed _) rfl rfl rfl
      · exact .named _ named null (failed_ne_crashed _) rfl rfl rfl
      · exact .named _ named null finished_ne_crashed rfl rfl rfl

/-!
## The loop
-/

structure Recorded (environment : Environment) (state : State) : Prop where
  events : state.events =
    (List.range state.mallocs).map fun k => .malloc (environment.malloc.result k)
  nonnull : ∀ k < state.mallocs, environment.malloc.result k ≠ 0

structure Unset (environment : Environment) (state : State) : Prop extends
    Recorded environment state where
  username : state.cd.username = .indeterminate environment.username
  mallocs : state.mallocs = 1

/-- The user name is in the block allocated last, behind that of the structure. -/
structure Stored (environment : Environment) (state : State) : Prop extends
    Recorded environment state where
  username : ∃ text,
    state.cd.username = .stored ⟨environment.malloc.result (state.mallocs - 1), text⟩
  mallocs : 2 ≤ state.mallocs

inductive Settled (environment : Environment) : Control → State → Prop where
  | stored {control : Control} {state : State} :
      control ≠ .crashed → Stored environment state → Settled environment control state
  | crashed {state : State} (blocks : List Pointer) :
      state.events = blocks.map .malloc → Settled environment .crashed state

theorem Recorded.append {next : State} (recorded : Recorded environment state)
    (allocated : environment.malloc.result state.mallocs ≠ 0)
    (mallocs : next.mallocs = state.mallocs + 1)
    (events : next.events =
      state.events ++ [.malloc (environment.malloc.result state.mallocs)]) :
    Recorded environment next := by
  refine ⟨?_, fun k below => ?_⟩
  · rw [events, recorded.events, mallocs, List.range_succ, List.map_append, List.map_singleton]
  · rw [mallocs] at below
    rcases Nat.lt_succ_iff_lt_or_eq.mp below with earlier | last
    · exact recorded.nonnull k earlier
    · exact last ▸ allocated

theorem Unset.setPort (unset : Unset environment state) (port : UInt16) :
    Unset environment (state.setPort port) :=
  ⟨⟨unset.events, unset.nonnull⟩, unset.username, unset.mallocs⟩

theorem Stored.setPort (stored : Stored environment state) (port : UInt16) :
    Stored environment (state.setPort port) :=
  ⟨⟨stored.events, stored.nonnull⟩, stored.username, stored.mallocs⟩

theorem UserArgument.settled {arg : CString} {control : Control} {next : State}
    (argument : UserArgument environment state arg control next)
    (recorded : Recorded environment state) (positive : 1 ≤ state.mallocs)
    (start : Stored environment state ∨ arg.head? ≠ some separator) :
    Settled environment control next := by
  cases argument with
  | nameless message bare =>
      rcases start with stored | named
      · exact .stored (failed_ne_crashed message) stored
      · exact absurd bare named
  | crashed =>
      refine .crashed ((List.range state.mallocs).map environment.malloc.result) ?_
      rw [List.map_map]
      exact recorded.events
  | named text _ allocated ended username mallocs events =>
      refine .stored ended ⟨recorded.append allocated mallocs events, ⟨text, ?_⟩, by omega⟩
      rw [username, mallocs, Nat.add_sub_cancel]

theorem userArgument_settled (environment : Environment) (state : State) {arg : CString}
    {rest : List CString} (other : ¬ PortOption arg) (member : separator ∈ arg)
    (start : Stored environment state ∨ Unset environment state ∧ NamesUser (arg :: rest)) :
    Settled environment (userArgument environment state arg).1
      (userArgument environment state arg).2 := by
  have argument := userArgument_spec environment state member
  rcases start with stored | ⟨unset, names⟩
  · exact argument.settled stored.toRecorded (Nat.le_of_succ_le stored.mallocs) (.inl stored)
  · have named := (namesUser_user_iff other member).mp names
    exact argument.settled unset.toRecorded (Nat.le_of_eq unset.mallocs.symm) (.inr named)

/-- Once the user name is stored it stays stored, and it is stored when an argument with
a user name is reached. -/
theorem argumentLoop_settled {argv : List CString}
    (start : Stored environment state ∨ Unset environment state ∧ NamesUser argv) :
    Settled environment (argumentLoop environment state argv).1
      (argumentLoop environment state argv).2 := by
  fun_induction argumentLoop environment state argv with
  | case1 state =>
      rcases start with stored | ⟨-, names⟩
      · exact .stored finished_ne_crashed stored
      · cases names
  | case2 state arg rest option long message refused =>
      rcases start with stored | ⟨-, names⟩
      · exact .stored (failed_ne_crashed message) stored
      · obtain ⟨valid, -⟩ := (namesUser_attached_iff option long).mp names
        exact absurd valid (portNumber_error_of refused)
  | case3 state arg rest option long port accepted ih =>
      refine ih (start.imp (·.setPort port) fun ⟨unset, names⟩ => ⟨unset.setPort port, ?_⟩)
      exact ((namesUser_attached_iff option long).mp names).2
  | case4 state arg option short =>
      rcases start with stored | ⟨-, names⟩
      · exact .stored (failed_ne_crashed _) stored
      · exact absurd names (not_namesUser_lone option (not_not.mp short))
  | case5 state arg option short text rest message refused =>
      rcases start with stored | ⟨-, names⟩
      · exact .stored (failed_ne_crashed message) stored
      · obtain ⟨valid, -⟩ := (namesUser_separate_iff option (not_not.mp short)).mp names
        exact absurd valid (portNumber_error_of refused)
  | case6 state arg option short text rest port accepted ih =>
      refine ih (start.imp (·.setPort port) fun ⟨unset, names⟩ => ⟨unset.setPort port, ?_⟩)
      exact ((namesUser_separate_iff option (not_not.mp short)).mp names).2
  | case7 state arg rest other member next finished ih =>
      have settled := userArgument_settled environment state other member start
      rw [finished] at settled
      cases settled with
      | stored _ stored => exact ih (.inl stored)
  | case8 state arg rest other member =>
      exact userArgument_settled environment state other member start
  | case9 state arg rest other plain ih =>
      refine ih (start.imp_right fun ⟨unset, names⟩ => ⟨unset, ?_⟩)
      exact (namesUser_ignored_iff other plain).mp names

theorem argumentLoop_unset {argv : List CString}
    (unset : state.cd.username = .indeterminate environment.username)
    (nameless : ¬ NamesUser argv) :
    (argumentLoop environment state argv).1 ≠ .crashed ∧
      (argumentLoop environment state argv).2.cd.username =
        .indeterminate environment.username := by
  fun_induction argumentLoop environment state argv with
  | case1 state => exact ⟨finished_ne_crashed, unset⟩
  | case2 state arg rest option long message refused => exact ⟨failed_ne_crashed message, unset⟩
  | case3 state arg rest option long port accepted ih =>
      refine ih unset fun names => nameless ?_
      exact (namesUser_attached_iff option long).mpr ⟨portNumber_ok_of accepted, names⟩
  | case4 state arg option short => exact ⟨failed_ne_crashed _, unset⟩
  | case5 state arg option short text rest message refused => exact ⟨failed_ne_crashed message, unset⟩
  | case6 state arg option short text rest port accepted ih =>
      refine ih unset fun names => nameless ?_
      exact (namesUser_separate_iff option (not_not.mp short)).mpr
        ⟨portNumber_ok_of accepted, names⟩
  | case7 state arg rest other member next finished ih =>
      have bare : arg.head? = some separator :=
        not_not.mp (mt (namesUser_user_iff other member).mpr nameless)
      have argument := userArgument_spec environment state member
      rw [finished] at argument
      cases argument with
      | named _ named => exact absurd bare named
  | case8 state arg rest other member =>
      have bare : arg.head? = some separator :=
        not_not.mp (mt (namesUser_user_iff other member).mpr nameless)
      have argument := userArgument_spec environment state member
      generalize userArgument environment state arg = result at argument
      obtain ⟨control, next⟩ := result
      cases argument with
      | nameless message => exact ⟨failed_ne_crashed message, unset⟩
      | crashed named => exact absurd bare named
      | named _ named => exact absurd bare named
  | case9 state arg rest other plain ih =>
      exact ih unset (mt (namesUser_ignored_iff other plain).mpr nameless)

end Loop

/-!
## Releasing
-/

section Release

variable {environment : Environment} {state : State}

theorem lifetime_malloc (blocks : List Pointer) :
    (blocks.map MemoryEvent.malloc).filterMap MemoryEvent.lifetime = blocks.map .acquired := by
  rw [List.filterMap_map, ← List.filterMap_eq_map]
  rfl

theorem releases_malloc (blocks : List Pointer) : Releases (blocks.map .malloc) := by
  refine ⟨fun username member => ?_, ?_⟩
  · obtain ⟨block, -, same⟩ := List.mem_map.mp member
    cases same
  · rw [lifetime_malloc]
    exact releasesHeld_acquired blocks

theorem Stored.releases (stored : Stored environment state) :
    Releases (state.events ++
      free_connection_data (some ⟨environment.malloc.result 0, state.cd⟩)) := by
  obtain ⟨text, username⟩ := stored.username
  have mallocs := stored.mallocs
  have last : state.mallocs - 1 < state.mallocs := by omega
  have nonnull := stored.nonnull _ last
  have distinct := environment.malloc.distinct 0 (state.mallocs - 1) (by omega)
    (stored.nonnull 0 (by omega))
  have events : state.events =
      ((List.range state.mallocs).map environment.malloc.result).map .malloc := by
    rw [List.map_map]
    exact stored.events
  rw [free_connection_data, username, Field.value, if_pos nonnull, events]
  refine ⟨fun field member => ?_, ?_⟩
  · rcases List.mem_append.mp member with allocated | released
    · exact (releases_malloc _).initialised field allocated
    · simp only [List.mem_cons, List.mem_append, List.not_mem_nil, or_false, reduceCtorEq,
        MemoryEvent.test.injEq] at released
      rw [released]
      exact trivial
  · have all := held_acquired ((List.range state.mallocs).map environment.malloc.result)
    have first := releasesHeld_acquired ((List.range state.mallocs).map environment.malloc.result)
    rw [List.filterMap_append, lifetime_malloc]
    have lastHeld : environment.malloc.result (state.mallocs - 1) ∈
        held (((List.range state.mallocs).map environment.malloc.result).map .acquired) := by
      rw [all]
      exact List.mem_map_of_mem (List.mem_range.mpr last)
    have firstHeld : environment.malloc.result 0 ∈
        held (((List.range state.mallocs).map environment.malloc.result).map .acquired ++
          [.released (environment.malloc.result (state.mallocs - 1))]) := by
      rw [held_append_released, all, List.mem_filter]
      refine ⟨List.mem_map_of_mem (List.mem_range.mpr (by omega)), ?_⟩
      simpa using distinct
    have third := (first.release lastHeld).release firstHeld
    rw [List.append_assoc] at third
    exact third

/-- A structure without one is released by way of a stray pointer. -/
theorem not_releases_of_unset (events : List MemoryEvent) (block : Pointer)
    (unset : state.cd.username = .indeterminate environment.username) :
    ¬ Releases (events ++ free_connection_data (some ⟨block, state.cd⟩)) := by
  intro releases
  refine releases.initialised (.indeterminate environment.username) ?_
  rw [free_connection_data, unset]
  exact List.mem_append_right _ List.mem_cons_self

end Release

theorem unset_start {environment : Environment} (allocated : environment.malloc.result 0 ≠ 0)
    (required : UInt32) : Unset environment (.start environment required) := by
  refine ⟨⟨rfl, fun k first => ?_⟩, rfl, rfl⟩
  rwa [Nat.lt_one_iff.mp first]

theorem failure_releases (message : CString) (events : List MemoryEvent)
    (allocated : Option Allocated) :
    Releases ((failure message events allocated).events ++
        free_connection_data (failure message events allocated).result) ↔
      Releases (events ++ free_connection_data allocated) := by
  rw [failure, free_connection_data, List.append_nil]

/-- Every end of the loop but a crash leads to the release of the structure, at once or by
the caller. -/
theorem releasesAllocated_ended_iff {environment : Environment} {argv : List CString}
    {required : UInt32} {control : Control} {state : State} (many : ¬ argv.length < 2)
    (allocated : environment.malloc.result 0 ≠ 0)
    (ended : argumentLoop environment (.start environment required) argv = (control, state))
    (alive : control ≠ .crashed) :
    ReleasesAllocated environment argv required ↔
      Releases (state.events ++
        free_connection_data (some ⟨environment.malloc.result 0, state.cd⟩)) := by
  unfold ReleasesAllocated parse_connection_data
  simp only [if_neg many, if_neg allocated, ended]
  cases control with
  | crashed => exact absurd rfl alive
  | failed message => exact failure_releases message _ _
  | finished =>
      dsimp only
      split
      · exact failure_releases _ _ _
      · exact .rfl

theorem releasesAllocated_crashed {environment : Environment} {argv : List CString}
    {required : UInt32} {state : State} {blocks : List Pointer} (many : ¬ argv.length < 2)
    (allocated : environment.malloc.result 0 ≠ 0)
    (ended : argumentLoop environment (.start environment required) argv = (.crashed, state))
    (events : state.events = blocks.map .malloc) :
    ReleasesAllocated environment argv required := by
  unfold ReleasesAllocated parse_connection_data
  simp only [if_neg many, if_neg allocated, ended, free_connection_data, List.append_nil]
  rw [events]
  exact releases_malloc blocks

/-- Whatever the arguments, the mask and the results of `malloc` and `getaddrinfo` are:
what is freed was allocated, and not freed before, exactly when the process ends at
once, or `malloc` fails for the structure, or an argument with a user name is reached. -/
theorem releasesAllocated_iff (environment : Environment) (argv : List CString)
    (required : UInt32) :
    ReleasesAllocated environment argv required ↔
      argv.length < 2 ∨ environment.malloc.result 0 = 0 ∨ NamesUser argv := by
  cases Nat.decLt argv.length 2 with
  | isTrue few =>
      unfold ReleasesAllocated parse_connection_data
      simp only [if_pos few]
      exact iff_of_true (releases_malloc []) (.inl few)
  | isFalse many =>
      rw [or_iff_right many]
      cases decEq (environment.malloc.result 0) 0 with
      | isTrue null =>
          unfold ReleasesAllocated parse_connection_data
          simp only [if_neg many, if_pos null, failure_releases]
          exact iff_of_true (releases_malloc []) (.inl null)
      | isFalse allocated =>
          rw [or_iff_right allocated]
          obtain ⟨control, state, ended⟩ : ∃ control state,
              argumentLoop environment (.start environment required) argv = (control, state) :=
            ⟨_, _, rfl⟩
          by_cases names : NamesUser argv
          · have settled := argumentLoop_settled (.inr ⟨unset_start allocated required, names⟩)
            rw [ended] at settled
            refine iff_of_true ?_ names
            cases settled with
            | crashed blocks events => exact releasesAllocated_crashed many allocated ended events
            | stored alive stored =>
                exact (releasesAllocated_ended_iff many allocated ended alive).2 stored.releases
          · obtain ⟨alive, unset⟩ := argumentLoop_unset (unset_start allocated required).username names
            rw [ended] at alive unset
            rw [releasesAllocated_ended_iff many allocated ended alive]
            exact iff_of_false (not_releases_of_unset _ _ unset) names

def Malloc.counting : Malloc where
  result k := k + 1
  distinct _ _ different _ same := different (Nat.succ.inj same)

/-- A command with a port but no user name: the structure is incomplete, and the stray
pointer in it is freed. -/
theorem missing_user_frees_garbage :
    ¬ ReleasesAllocated
        ⟨.counting, fun _ => .empty, ⟨48879, []⟩, 0⟩ [ascii "sftp_get", ascii "-p22"]
        (CD_ADDRESS ||| CD_USERNAME) := by
  intro releases
  have tested := releases.initialised (.indeterminate ⟨48879, []⟩) (by decide)
  exact tested

end NetworkServices.Ssh
