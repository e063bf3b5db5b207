import NetworkServices.Ssh.Arguments

/-! What a result of `parse_connection_data` is made of, and for which command lines there is
one. Of the ports and of the user names the last one counts. -/

set_option autoImplicit false

namespace NetworkServices.Ssh

/-- What was stored in a member. -/
def Field.assigned {α : Type} : Field α → Option α
  | .indeterminate _ => none
  | .stored value => some value

/-- What a caller finds in a structure, wherever its strings lie. -/
structure Contents where
  username : Option CString
  address : Option UInt32
  port : UInt16
  deriving DecidableEq

def ConnectionData.contents (cd : ConnectionData) : Contents where
  username := cd.username.assigned.map Text.text
  address := cd.address.assigned
  port := cd.port

def Resolution.address? : Resolution → Option UInt32
  | .found address => some address
  | _ => none

/-- The mask of what an argument provides. -/
def Argument.provides : Argument → UInt32
  | .port _ => CD_PORT
  | .user _ => CD_USERNAME ||| CD_ADDRESS
  | .unfinished => 0

def provided (args : List Argument) : UInt32 :=
  args.foldr (fun argument mask => argument.provides ||| mask) 0

/-- The state behind arguments that are all accepted. -/
structure Filled (environment : Environment) (state : State) (args : List Argument)
    (final : State) : Prop where
  accepted : ∀ argument ∈ args, argument.Accepted environment
  blocks : ∀ i < (args.filterMap Argument.user?).length,
    environment.malloc.result (state.mallocs + i) ≠ 0
  port : final.cd.port = (args.filterMap Argument.port?).getLast?.elim state.cd.port portValue
  username : final.cd.contents.username =
    (args.filterMap Argument.user?).getLast?.elim state.cd.contents.username (some ∘ userName)
  address : final.cd.contents.address =
    (args.filterMap Argument.user?).getLast?.elim state.cd.contents.address
      fun text => (environment.getaddrinfo (hostName text)).address?
  required : final.required = state.required &&& ~~~provided args

section Filled

variable {environment : Environment} {state next final : State} {argument : Argument}
  {args : List Argument}

theorem elim_getLast?_cons {α β : Type} (first : α) (others : List α) (default : β) (f : α → β) :
    (first :: others).getLast?.elim default f = others.getLast?.elim (f first) f := by
  rw [List.getLast?_cons]
  cases others.getLast? <;> rfl

theorem and_not_and_not (mask first second : UInt32) :
    mask &&& ~~~first &&& ~~~second = mask &&& ~~~(first ||| second) := by
  rw [UInt32.and_assoc, ← UInt32.toBitVec_inj]
  simp [BitVec.not_or]

theorem filterMap_port?_cons (text : CString) (args : List Argument) :
    (Argument.port text :: args).filterMap Argument.port? =
      text :: args.filterMap Argument.port? := rfl

theorem filterMap_user?_cons (text : CString) (args : List Argument) :
    (Argument.user text :: args).filterMap Argument.user? =
      text :: args.filterMap Argument.user? := rfl

theorem Filled.cons (step : Step environment state argument next)
    (filled : Filled environment next args final) :
    Filled environment state (argument :: args) final := by
  have accepted : ∀ other ∈ argument :: args, other.Accepted environment := by
    intro other member
    rcases List.mem_cons.mp member with rfl | later
    · exact step.accepted
    · exact filled.accepted other later
  cases step with
  | port valid =>
      refine ⟨accepted, filled.blocks, ?_, filled.username, filled.address, ?_⟩
      · rw [filled.port, filterMap_port?_cons, elim_getLast?_cons]
        rfl
      · exact filled.required.trans (and_not_and_not _ _ _)
  | user named allocated found =>
      refine ⟨accepted, ?_, filled.port, ?_, ?_, ?_⟩
      · intro i below
        cases i with
        | zero => exact allocated
        | succ i =>
            have shifted : state.mallocs + (i + 1) = state.mallocs + 1 + i := by omega
            rw [shifted]
            exact filled.blocks i (Nat.lt_of_succ_lt_succ below)
      · rw [filled.username, filterMap_user?_cons, elim_getLast?_cons]
        rfl
      · rw [filled.address, filterMap_user?_cons, elim_getLast?_cons, found]
        rfl
      · refine filled.required.trans ?_
        rw [State.setUser, and_not_and_not, and_not_and_not, ← UInt32.or_assoc]
        rfl

theorem readAll_filled (finished : readAll environment state args = (.finished, final)) :
    Filled environment state args final := by
  induction args generalizing state with
  | nil =>
      cases finished
      refine ⟨fun _ member => ?_, fun _ below => ?_, rfl, rfl, rfl, ?_⟩
      · cases member
      · cases below
      · simp [provided]
  | cons argument rest ih =>
      rw [readAll] at finished
      split at finished
      · next read => exact (ih finished).cons (read_finished_iff.mp read)
      · next stopped => exact absurd finished (stopped _)

theorem readAll_of_accepted (accepted : ∀ argument ∈ args, argument.Accepted environment)
    (blocks : ∀ i < (args.filterMap Argument.user?).length,
      environment.malloc.result (state.mallocs + i) ≠ 0) :
    ∃ final, readAll environment state args = (.finished, final) := by
  induction args generalizing state with
  | nil => exact ⟨state, rfl⟩
  | cons argument rest ih =>
      have first := accepted argument List.mem_cons_self
      have others : ∀ other ∈ rest, other.Accepted environment := by
        intro other member
        exact accepted other (List.mem_cons_of_mem _ member)
      cases argument with
      | unfinished => cases first
      | port text =>
          rw [readAll_port_of_valid first]
          exact ih others blocks
      | user text =>
          obtain ⟨named, address, found⟩ := first
          rw [filterMap_user?_cons] at blocks
          have step := Step.user named (blocks 0 (Nat.succ_pos _)) found
          rw [readAll_cons_of_finished (read_finished_iff.mpr step)]
          refine ih others fun i below => ?_
          have shifted : state.mallocs + 1 + i = state.mallocs + (i + 1) := by omega
          change environment.malloc.result (state.mallocs + 1 + i) ≠ 0
          rw [shifted]
          exact blocks (i + 1) (Nat.succ_lt_succ below)

end Filled

/-!
## The result
-/

section Result

variable {environment : Environment} {argv : List CString} {required : UInt32}

theorem argumentLoop_finished_iff {state final : State} :
    argumentLoop environment state argv = (.finished, final) ↔
      readAll environment state (arguments argv) = (.finished, final) := by
  rw [← argumentLoop_reads, quietly, Prod.ext_iff, Prod.ext_iff, quiet_eq_finished]

theorem parse_eq_some_iff {allocated : Allocated} :
    (parse_connection_data environment argv required).result = some allocated ↔
      2 ≤ argv.length ∧ environment.malloc.result 0 ≠ 0 ∧ ∃ state,
        readAll environment (.start environment required) (arguments argv) = (.finished, state) ∧
          state.required = 0 ∧ allocated = ⟨environment.malloc.result 0, state.cd⟩ := by
  unfold parse_connection_data
  simp only [← argumentLoop_finished_iff]
  cases Nat.decLt argv.length 2 with
  | isTrue few =>
      rw [if_pos few]
      exact iff_of_false (fun same => by cases same) fun many => by omega
  | isFalse many =>
      rw [if_neg many, and_iff_right (Nat.le_of_not_lt many)]
      cases decEq (environment.malloc.result 0) 0 with
      | isTrue null =>
          rw [if_pos null]
          exact iff_of_false (fun same => by cases same) fun allocated => allocated.1 null
      | isFalse allocated =>
          rw [if_neg allocated, and_iff_right allocated]
          generalize argumentLoop environment (.start environment required) argv = ended
          obtain ⟨control, state⟩ := ended
          cases control with
          | crashed | failed message =>
              refine iff_of_false (fun same => by cases same) fun found => ?_
              obtain ⟨_, finished, -⟩ := found
              cases finished
          | finished =>
              dsimp only
              split
              · next missing =>
                  refine iff_of_false (fun same => by cases same) fun found => ?_
                  obtain ⟨_, finished, complete, -⟩ := found
                  cases finished
                  exact missing complete
              · next complete =>
                  constructor
                  · intro same
                    exact ⟨state, rfl, not_not.mp complete, (Option.some.inj same).symm⟩
                  · intro found
                    obtain ⟨_, finished, -, same⟩ := found
                    cases finished
                    rw [same]

/-- The command lines for which a structure is returned. -/
structure Complete (environment : Environment) (argv : List CString) (required : UInt32) :
    Prop where
  many : 2 ≤ argv.length
  accepted : ∀ argument ∈ arguments argv, argument.Accepted environment
  blocks : ∀ i ≤ (users argv).length, environment.malloc.result i ≠ 0
  required : required &&& ~~~provided (arguments argv) = 0

theorem parse_isSome_iff :
    (parse_connection_data environment argv required).result.isSome ↔
      Complete environment argv required := by
  rw [Option.isSome_iff_exists]
  constructor
  · intro returned
    obtain ⟨allocated, returned⟩ := returned
    obtain ⟨many, block, state, finished, cleared, -⟩ := parse_eq_some_iff.mp returned
    have filled := readAll_filled finished
    refine ⟨many, filled.accepted, fun i below => ?_, filled.required ▸ cleared⟩
    cases i with
    | zero => exact block
    | succ i =>
        have shifted : i + 1 = (State.start environment required).mallocs + i := Nat.add_comm i 1
        rw [shifted]
        exact filled.blocks i below
  · intro complete
    have blocks : ∀ i < (users argv).length,
        environment.malloc.result ((State.start environment required).mallocs + i) ≠ 0 := by
      intro i below
      exact complete.blocks (1 + i) (by omega)
    obtain ⟨state, finished⟩ := readAll_of_accepted complete.accepted blocks
    refine ⟨_, parse_eq_some_iff.mpr ⟨complete.many, complete.blocks 0 (Nat.zero_le _), state,
      finished, ?_, rfl⟩⟩
    exact (readAll_filled finished).required.trans complete.required

end Result

/-!
## What is provided
-/

section Provided

variable {mask cleared bit : UInt32} {args : List Argument}

theorem and_eq_zero_of_cleared (outside : mask &&& ~~~cleared = 0) (disjoint : cleared &&& bit = 0) :
    mask &&& bit = 0 := by
  have split : mask &&& bit = (mask &&& ~~~cleared &&& bit) ||| (mask &&& (cleared &&& bit)) := by
    rw [← UInt32.toBitVec_inj]
    refine BitVec.eq_of_getLsbD_eq fun i below => ?_
    simp only [UInt32.toBitVec_and, UInt32.toBitVec_or, UInt32.toBitVec_not, BitVec.getLsbD_and,
      BitVec.getLsbD_or, BitVec.getLsbD_not, below, decide_true, Bool.true_and]
    cases mask.toBitVec.getLsbD i <;> cases cleared.toBitVec.getLsbD i <;> simp
  rw [split, outside, disjoint]
  simp

theorem provided_and_eq_zero (others : ∀ argument ∈ args, argument.provides &&& bit = 0) :
    provided args &&& bit = 0 := by
  induction args with
  | nil => exact UInt32.zero_and
  | cons argument rest ih =>
      have first := others argument List.mem_cons_self
      have later := ih fun other member => others other (List.mem_cons_of_mem _ member)
      have both : provided (argument :: rest) &&& bit =
          (argument.provides &&& bit) ||| (provided rest &&& bit) := by
        rw [← UInt32.toBitVec_inj]
        simp [provided, BitVec.and_or_distrib_right]
      rw [both, first, later]
      rfl

theorem provides_and_port (argument : Argument) (other : argument.port? = none) :
    argument.provides &&& CD_PORT = 0 := by
  cases argument with
  | port => cases other
  | user | unfinished =>
      simp only [Argument.provides]
      decide

theorem provides_and_user (argument : Argument) (other : argument.user? = none) :
    argument.provides &&& CD_USERNAME = 0 ∧ argument.provides &&& CD_ADDRESS = 0 := by
  cases argument with
  | user => cases other
  | port | unfinished =>
      simp only [Argument.provides]
      decide

theorem provides_inside (argument : Argument) :
    argument.provides &&& ~~~(CD_ADDRESS ||| CD_PORT ||| CD_USERNAME) = 0 := by
  cases argument with
  | port | user | unfinished =>
      simp only [Argument.provides]
      decide

theorem required_provided {required : UInt32} (cleared : required &&& ~~~provided args = 0) :
    (required &&& CD_PORT ≠ 0 → args.filterMap Argument.port? ≠ []) ∧
      (required &&& CD_USERNAME ≠ 0 → args.filterMap Argument.user? ≠ []) ∧
      (required &&& CD_ADDRESS ≠ 0 → args.filterMap Argument.user? ≠ []) ∧
      required &&& ~~~(CD_ADDRESS ||| CD_PORT ||| CD_USERNAME) = 0 := by
  refine ⟨fun needed none => needed ?_, fun needed none => needed ?_, fun needed none => needed ?_, ?_⟩
  · refine and_eq_zero_of_cleared cleared (provided_and_eq_zero fun argument member => ?_)
    exact provides_and_port argument (List.filterMap_eq_nil_iff.mp none argument member)
  · refine and_eq_zero_of_cleared cleared (provided_and_eq_zero fun argument member => ?_)
    exact (provides_and_user argument (List.filterMap_eq_nil_iff.mp none argument member)).1
  · refine and_eq_zero_of_cleared cleared (provided_and_eq_zero fun argument member => ?_)
    exact (provides_and_user argument (List.filterMap_eq_nil_iff.mp none argument member)).2
  · refine and_eq_zero_of_cleared cleared (provided_and_eq_zero fun argument _ => ?_)
    exact provides_inside argument

end Provided

/-- The last port and the last user name of the vector fill the structure, and each part that is
required is filled so. -/
structure FilledBy (environment : Environment) (argv : List CString) (required : UInt32)
    (cd : ConnectionData) : Prop where
  default : ports argv = [] → cd.port = 22
  port : ∀ text ∈ (ports argv).getLast?,
    1 ≤ strtol text ∧ strtol text ≤ 65535 ∧ (cd.port.toNat : Int) = strtol text
  username : ∀ text ∈ (users argv).getLast?,
    userName text ≠ [] ∧ cd.contents.username = some (userName text)
  address : ∀ text ∈ (users argv).getLast?, ∃ address,
    environment.getaddrinfo (hostName text) = .found address ∧ cd.contents.address = some address
  requiredPort : required &&& CD_PORT ≠ 0 → ports argv ≠ []
  requiredUsername : required &&& CD_USERNAME ≠ 0 → users argv ≠ []
  requiredAddress : required &&& CD_ADDRESS ≠ 0 → users argv ≠ []
  requiredOther : required &&& ~~~(CD_ADDRESS ||| CD_PORT ||| CD_USERNAME) = 0

section FilledBy

variable {environment : Environment} {argv : List CString} {required : UInt32}

theorem mem_arguments_of_ports {text : CString} (member : text ∈ ports argv) :
    .port text ∈ arguments argv := by
  obtain ⟨argument, member, same⟩ := List.mem_filterMap.mp member
  cases argument with
  | port => cases same; exact member
  | user | unfinished => cases same

theorem mem_arguments_of_users {text : CString} (member : text ∈ users argv) :
    .user text ∈ arguments argv := by
  obtain ⟨argument, member, same⟩ := List.mem_filterMap.mp member
  cases argument with
  | user => cases same; exact member
  | port | unfinished => cases same

theorem mem_argv_of_user {text : CString} (member : .user text ∈ arguments argv) : text ∈ argv := by
  fun_induction arguments argv with
  | case1 => cases member
  | case2 arg rest option long ih =>
      rcases List.mem_cons.mp member with port | later
      · cases port
      · exact List.mem_cons_of_mem arg (ih later)
  | case3 arg option short =>
      rcases List.mem_cons.mp member with lone | later
      · cases lone
      · cases later
  | case4 arg option short port rest ih =>
      rcases List.mem_cons.mp member with first | later
      · cases first
      · exact List.mem_cons_of_mem arg (List.mem_cons_of_mem port (ih later))
  | case5 arg rest other plain ih =>
      rcases List.mem_cons.mp member with first | later
      · cases first
        exact List.mem_cons_self
      · exact List.mem_cons_of_mem arg (ih later)
  | case6 arg rest other plain ih => exact List.mem_cons_of_mem arg (ih member)

theorem readAll_filledBy {state : State}
    (finished : readAll environment (.start environment required) (arguments argv) =
      (.finished, state))
    (cleared : state.required = 0) : FilledBy environment argv required state.cd := by
  have filled := readAll_filled finished
  rw [filled.required] at cleared
  obtain ⟨port, username, address, other⟩ := required_provided cleared
  refine ⟨fun none => ?_, fun text last => ?_, fun text last => ?_, fun text last => ?_, port,
    username, address, other⟩
  · rw [filled.port]
    change (ports argv).getLast?.elim 22 portValue = 22
    rw [none]
    rfl
  · have valid := filled.accepted _ (mem_arguments_of_ports (List.mem_of_getLast? last))
    refine ⟨valid.1, valid.2, ?_⟩
    rw [filled.port]
    change (((ports argv).getLast?.elim _ portValue).toNat : Int) = _
    rw [last]
    exact portValue_toNat valid
  · have accepted := filled.accepted _ (mem_arguments_of_users (List.mem_of_getLast? last))
    refine ⟨accepted.1, filled.username.trans ?_⟩
    change (users argv).getLast?.elim _ _ = _
    rw [last]
    rfl
  · obtain ⟨-, found, resolved⟩ :=
      filled.accepted _ (mem_arguments_of_users (List.mem_of_getLast? last))
    refine ⟨found, resolved, filled.address.trans ?_⟩
    change (users argv).getLast?.elim _ _ = _
    rw [last]
    change (environment.getaddrinfo (hostName text)).address? = _
    rw [resolved]
    rfl

theorem username_of_required {allocated : Allocated}
    (returned : (parse_connection_data environment argv required).result = some allocated)
    (needed : required &&& CD_USERNAME ≠ 0) :
    ∃ text ∈ argv, allocated.cd.username.value.text = userName text := by
  obtain ⟨-, -, state, finished, cleared, rfl⟩ := parse_eq_some_iff.mp returned
  have filled := readAll_filledBy finished cleared
  have named := filled.requiredUsername needed
  refine ⟨_, mem_argv_of_user (mem_arguments_of_users (List.getLast_mem named)), ?_⟩
  obtain ⟨-, username⟩ := filled.username _ (List.getLast?_eq_getLast_of_ne_nil named)
  unfold ConnectionData.contents at username
  cases field : state.cd.username with
  | indeterminate value =>
      rw [field] at username
      cases username
  | stored value =>
      rw [field] at username
      exact Option.some.inj username

theorem parse_filledBy {allocated : Allocated}
    (returned : (parse_connection_data environment argv required).result = some allocated) :
    FilledBy environment argv required allocated.cd := by
  obtain ⟨-, -, state, finished, cleared, rfl⟩ := parse_eq_some_iff.mp returned
  exact readAll_filledBy finished cleared

end FilledBy

def Environment.counting (getaddrinfo : CString → Resolution) : Environment where
  malloc := .counting
  getaddrinfo
  username := ⟨48879, []⟩
  address := 0

/-- The port of the first option is replaced by that of the second. -/
theorem parse_filledBy_ports :
    FilledBy (.counting fun _ => .found 16777343)
      [ascii "sftp_get", ascii "-p22", ascii "alice@server", ascii "-p", ascii "2222"]
      (CD_ADDRESS ||| CD_USERNAME) ⟨.stored ⟨2, ascii "alice"⟩, .stored 16777343, 2222⟩ := by
  have returned : (parse_connection_data (.counting fun _ => .found 16777343)
      [ascii "sftp_get", ascii "-p22", ascii "alice@server", ascii "-p", ascii "2222"]
      (CD_ADDRESS ||| CD_USERNAME)).result =
        some ⟨1, .stored ⟨2, ascii "alice"⟩, .stored 16777343, 2222⟩ := by decide
  exact parse_filledBy returned

end NetworkServices.Ssh
