import NetworkServices.Iptables.ParserBlocks

/-! What a run of `iptcmod.c` does to the tables of the kernel and to what it holds. -/

set_option autoImplicit false

namespace NetworkServices.Iptables.Iptcmod

variable {Tables Copy : Type}

/-- The copy behind the handle has become `copy`; the rest is as it was. -/
structure Editing (start world : World Tables Copy) (h : Handle) (copy : Copy) : Prop where
  opened : world.opened = some (h, copy)
  blocks : world.blocks = start.blocks
  tables : world.tables = start.tables
  commits : world.commits = start.commits

/-- The program fails, and the kernel has what it had. -/
def Fails (start world : World Tables Copy) (status : ExitStatus) : Prop :=
  status = .failure ∧ world.tables = start.tables ∧ world.commits = start.commits

/-- All requests have succeeded on the copy, and the kernel has got what it was made into. -/
structure Performs (lib : Libiptc Tables Copy) (start : World Tables Copy) (h : Handle)
    (copy : Copy) (requests : List Request) (world : World Tables Copy) : Prop where
  blocks : world.blocks = start.blocks
  edited : (requests.foldlM lib.edit copy).bind (lib.commit · start.tables) = some world.tables
  commits : world.commits = start.commits ++ [world.tables]
  opened : world.HasOpen h ↔ lib.keepsHandle = true

section Requests

variable {lib : Libiptc Tables Copy} {start world : World Tables Copy} {h : Handle} {copy : Copy}

/-- A request that is made of an open handle fails, or it leads where it may lead. -/
theorem meets_request {Result Value : Type} {ended : World Tables Copy → ExitStatus → Prop}
    {post : World Tables Copy → Result → Prop} {next : Bool → Process Result}
    {request : Request} {result : Option Value} {advance : Value → World Tables Copy}
    (given : request.Given) (opened : world.opened = some (h, copy))
    (fulfil : lib.fulfil world request = result.map advance)
    (done : ∀ value, result = some value →
      Meets lib.interface ended post (advance value) (next true))
    (failed : Meets lib.interface ended post world (next false)) :
    Meets lib.interface ended post world (.call (.iptc request h) next) := by
  refine ⟨⟨given, copy, opened⟩, ?_⟩
  intro answer promised
  cases answer with
  | false => exact failed
  | true =>
      have succeeded : (lib.fulfil world request).isSome := promised rfl
      rw [fulfil, Option.isSome_map, Option.isSome_iff_exists] at succeeded
      obtain ⟨value, succeeded⟩ := succeeded
      show Meets lib.interface ended post ((lib.fulfil world request).getD world) (next true)
      rw [fulfil, succeeded, Option.map_some, Option.getD_some]
      exact done value succeeded

variable {next : Bool → Process Unit}

/-- One edit in front of others. -/
theorem Editing.edit (editing : Editing start world h copy) {request : Request}
    {requests : List Request} (edit : request ≠ .commit) (given : request.Given)
    (done : ∀ world' copy', Editing start world' h copy' →
      Meets lib.interface (Fails start) (fun last _ => Performs lib start h copy' requests last)
        world' (next true))
    (failed : ∀ post, Meets lib.interface (Fails start) post world (next false)) :
    Meets lib.interface (Fails start)
      (fun last _ => Performs lib start h copy (request :: requests) last) world
      (.call (.iptc request h) next) := by
  have fulfil : lib.fulfil world request =
      (lib.edit copy request).map fun copy => { world with opened := some (h, copy) } := by
    rw [Libiptc.fulfil, editing.opened, Option.bind_some]
    exact if_neg edit
  refine meets_request given editing.opened fulfil ?_ (failed _)
  intro copy' edited
  have after : Editing start { world with opened := some (h, copy') } h copy' :=
    ⟨rfl, editing.blocks, editing.tables, editing.commits⟩
  refine (done _ copy' after).mono (fun _ _ fails => fails) ?_
  intro last _ performs
  refine ⟨performs.blocks, ?_, performs.commits, performs.opened⟩
  have later := performs.edited
  rwa [List.foldlM_cons, edited, Option.bind_eq_bind, Option.bind_some]

theorem meets_failWithError {post : World Tables Copy → Unit → Prop} {front back : CString}
    (tables : world.tables = start.tables) (commits : world.commits = start.commits) :
    Meets lib.interface (Fails start) post world (failWithError front back) := by
  simp only [failWithError, fprintf, meets_bind, meets_invoke, meets_exit]
  refine ⟨trivial, fun error _ => ⟨trivial, fun _ _ => ?_⟩⟩
  exact ⟨rfl, tables, commits⟩

theorem meets_failWithPerror {post : World Tables Copy → Unit → Prop} {text : CString}
    (tables : world.tables = start.tables) (commits : world.commits = start.commits) :
    Meets lib.interface (Fails start) post world (failWithPerror text) := by
  simp only [failWithPerror, meets_bind, meets_exit]
  refine ⟨trivial, fun _ _ => ?_⟩
  exact ⟨rfl, tables, commits⟩

theorem meets_fail_saying {post : World Tables Copy → Unit → Prop} {text : CString}
    {next : Process Unit} (editing : Editing start world h copy)
    (failed : ∀ world, Editing start world h copy →
      Meets lib.interface (Fails start) post world next) :
    Meets lib.interface (Fails start) post world (do
      fprintf .stderr text
      next) := by
  rw [fprintf, meets_bind]
  refine ⟨trivial, fun _ _ => ?_⟩
  exact failed _ ⟨editing.opened, editing.blocks, editing.tables, editing.commits⟩

theorem Editing.commit (editing : Editing start world h copy) :
    Meets lib.interface (Fails start) (fun last _ => Performs lib start h copy [] last) world
      (commit h) := by
  have fulfil : lib.fulfil world .commit = (lib.commit copy world.tables).map fun tables =>
      { world with
        tables
        commits := world.commits ++ [tables]
        opened := if lib.keepsHandle then some (h, copy) else none } := by
    rw [Libiptc.fulfil, editing.opened, Option.bind_some]
    exact if_pos rfl
  refine meets_request trivial editing.opened fulfil ?_
    (meets_failWithError editing.tables editing.commits)
  intro stored committed
  refine ⟨editing.blocks, ?_, ?_, ?_⟩
  · rw [← editing.tables]
    exact committed
  · exact congrArg (· ++ [stored]) editing.commits
  · cases kept : lib.keepsHandle with
    | false => simp [World.HasOpen]
    | true => simp [World.HasOpen]

end Requests

section Operations

variable {lib : Libiptc Tables Copy} {start world : World Tables Copy} {h : Handle} {copy : Copy}
  {r : Allocated Opcode}

theorem Allocated.Complete.chainText (complete : r.Complete) (set : r.operation ≠ .none) :
    r.chainText.isSome := by
  rw [Allocated.chainText, Option.isSome_map, ← Option.ne_none_iff_isSome]
  exact mt complete.chain.mpr set

theorem meets_delete_rule (editing : Editing start world h copy) (complete : r.Complete)
    (operation : r.operation = .deleteRule) :
    Meets lib.interface (Fails start)
      (fun last _ => Performs lib start h copy (edits r.rule) last) world (delete_rule h r) := by
  have chain := complete.chainText (by rw [operation]; nofun)
  have ruleNum : (r.ruleNum.map Int32.toUInt32).isSome := by
    rw [Option.isSome_map]
    exact complete.ruleNum operation
  have edits : edits r.rule =
      [.is_chain r.chainText, .delete_num_entry r.chainText (r.ruleNum.map Int32.toUInt32)] := by
    simp only [Iptcmod.edits, Allocated.rule, operation]
    rfl
  rw [edits]
  refine editing.edit nofun chain ?_ ?_
  · intro _ _ editing
    refine editing.edit nofun ⟨chain, ruleNum⟩ ?_ ?_
    · intro _ _ editing
      exact editing.commit
    · intro post
      exact meets_failWithError editing.tables editing.commits
  · intro post
    refine meets_fail_saying editing ?_
    intro world editing
    exact ⟨rfl, editing.tables, editing.commits⟩

theorem meets_create_chain (editing : Editing start world h copy) (complete : r.Complete)
    (operation : r.operation = .newChain) :
    Meets lib.interface (Fails start)
      (fun last _ => Performs lib start h copy (edits r.rule) last) world (create_chain h r) := by
  have chain := complete.chainText (by rw [operation]; nofun)
  have edits : edits r.rule = [.create_chain r.chainText] := by
    simp only [Iptcmod.edits, Allocated.rule, operation]
    rfl
  rw [edits]
  refine editing.edit nofun chain ?_ ?_
  · intro _ _ editing
    exact editing.commit
  · intro post
    exact meets_failWithError editing.tables editing.commits

/-- Both policies, with their labels. -/
theorem meets_setPolicy (editing : Editing start world h copy) (chain : r.chainText.isSome)
    (label : CString) :
    Meets lib.interface (Fails start)
      (fun last _ => Performs lib start h copy
        [.is_chain r.chainText, .builtin r.chainText, .set_policy r.chainText label] last)
      world (setPolicy label h r) := by
  refine editing.edit nofun chain ?_ ?_
  · intro _ _ editing
    refine editing.edit nofun chain ?_ ?_
    · intro _ _ editing
      refine editing.edit nofun chain ?_ ?_
      · intro _ _ editing
        exact editing.commit
      · intro post
        exact meets_failWithPerror editing.tables editing.commits
    · intro post
      refine meets_fail_saying editing ?_
      intro world editing
      exact meets_failWithPerror editing.tables editing.commits
  · intro post
    exact meets_failWithPerror editing.tables editing.commits

/-- Each operation makes the requests of its rule. -/
theorem meets_perform (editing : Editing start world h copy) (complete : r.Complete)
    (set : r.operation ≠ .none) :
    Meets lib.interface (Fails start)
      (fun last _ => Performs lib start h copy (edits r.rule) last) world (perform h r) := by
  have chain := complete.chainText set
  unfold perform
  cases operation : r.operation with
  | none => exact absurd operation set
  | deleteRule => exact meets_delete_rule editing complete operation
  | newChain => exact meets_create_chain editing complete operation
  | policyAccept =>
      have edits : edits r.rule = [.is_chain r.chainText, .builtin r.chainText,
          .set_policy r.chainText (ascii "ACCEPT")] := by
        simp only [Iptcmod.edits, Allocated.rule, operation]
        rfl
      rw [edits]
      exact meets_setPolicy editing chain _
  | policyDrop =>
      have edits : edits r.rule = [.is_chain r.chainText, .builtin r.chainText,
          .set_policy r.chainText (ascii "DROP")] := by
        simp only [Iptcmod.edits, Allocated.rule, operation]
        rfl
      rw [edits]
      exact meets_setPolicy editing chain _

end Operations

/-!
## The whole program
-/

/-- How `main` ends. Without success the kernel has what it had. With success nothing is held,
and the arguments ask for help, or the kernel has got what they ask for by a single commit. -/
def Ends (lib : Libiptc Tables Copy) (start : World Tables Copy) (argv : List CString)
    (world : World Tables Copy) : ExitStatus → Prop
  | .failure => world.tables = start.tables ∧ world.commits = start.commits
  | .success => world.blocks.Perm start.blocks ∧ world.opened = none ∧
      ((∃ text, parse argv = .help text ∧ world.printed = start.printed ++ [(.stdout, text)] ∧
          world.tables = start.tables ∧ world.commits = start.commits) ∨
        ∃ rule, parse argv = .rule rule ∧
          lib.carryOut rule start.tables = some world.tables ∧
          world.commits = start.commits ++ [world.tables])

section Main

variable {lib : Libiptc Tables Copy} {start world : World Tables Copy} {argv : List CString}
  {r : Allocated Opcode}

theorem ends_of_parserExits (closed : start.opened = none) {status : ExitStatus}
    (exits : ParserExits start (parse argv) world status) : Ends lib start argv world status := by
  cases status with
  | success =>
      obtain ⟨text, outcome, said, blocks⟩ := exits
      obtain ⟨tables, commits, opened⟩ := outside_eq_iff.mp said.outside
      exact ⟨blocks, opened.trans closed, .inl ⟨text, outcome, said.printed, tables, commits⟩⟩
  | failure =>
      obtain ⟨_, outside⟩ := exits
      obtain ⟨tables, commits, _⟩ := outside_eq_iff.mp outside
      exact ⟨tables, commits⟩

theorem ends_of_fails (tables : world.tables = start.tables) (commits : world.commits = start.commits)
    {last : World Tables Copy} {status : ExitStatus} (fails : Fails world last status) :
    Ends lib start argv last status := by
  obtain ⟨rfl, lastTables, lastCommits⟩ := fails
  exact ⟨lastTables.trans tables, lastCommits.trans commits⟩

/-- The end of `main` behind the operation. -/
theorem meets_finish {h : Handle} {copy : Copy} (accepted : parse argv = .rule r.rule)
    (owns : Owns start world r) {table : CString} (named : r.rule.table = some table)
    (initialised : lib.init table start.tables = some copy) {last : World Tables Copy}
    (performs : Performs lib { world with opened := some (h, copy) } h copy (edits r.rule) last) :
    Meets lib.interface (Ends lib start argv) (fun _ _ => False) last (do
      free_rule (some r)
      .invoke (Call.iptc_free h)
      .exit .success : Process Unit) := by
  obtain ⟨tables, commits, _⟩ := outside_eq_iff.mp owns.outside
  have held : last.blocks.Perm (r.blocks ++ start.blocks) := by
    rw [performs.blocks]
    exact owns.blocks
  refine meets_free_rule held ?_
  intro blocks freed
  refine ⟨performs.opened, ?_⟩
  intro _ _
  refine ⟨freed, rfl, .inr ⟨r.rule, accepted, ?_, ?_⟩⟩
  · have edited := performs.edited
    simp only [tables] at edited
    simp only [Libiptc.carryOut, named, Option.bind_eq_bind, Option.bind_some, initialised]
    exact edited
  · rw [← commits]
    exact performs.commits

theorem meets_main (lib : Libiptc Tables Copy) (closed : start.opened = none)
    (argv : List CString) :
    Meets lib.interface (Ends lib start argv) (fun _ _ => False) start (main argv) := by
  refine (meets_parseRule lib start argv).sequence
    (fun _ _ exits => ends_of_parserExits closed exits) ?_
  intro world result returned
  cases result with
  | none =>
      obtain ⟨_, _, said, _⟩ := returned
      obtain ⟨tables, commits, _⟩ := outside_eq_iff.mp said.outside
      exact ⟨tables, commits⟩
  | some r =>
      obtain ⟨ready, accepted, owns⟩ := returned
      obtain ⟨tables, commits, opened⟩ := outside_eq_iff.mp owns.outside
      obtain ⟨name, named⟩ := Option.ne_none_iff_exists'.mp ready.table
      have table : r.tableText = some name.text := by rw [Allocated.tableText, named, Option.map_some]
      refine ⟨⟨?_, opened.trans closed⟩, ?_⟩
      · rw [table]
        rfl
      intro handle promised
      cases handle with
      | none =>
          refine (meets_failWithError rfl rfl).mono ?_ (fun _ _ never => never)
          intro last status fails
          exact ends_of_fails tables commits fails
      | some h =>
          have some := promised rfl
          rw [table, Option.bind_some, Option.isSome_iff_exists, tables] at some
          obtain ⟨copy, initialised⟩ := some
          have after : lib.interface.after world (.iptc_init r.tableText) (Option.some h) =
              { world with opened := Option.some (h, copy) } := by
            show ({ world with opened := _ } : World Tables Copy) = _
            simp only [table, tables, initialised, Option.bind_eq_bind, Option.bind_some]
            rfl
          rw [after]
          have editing : Editing { world with opened := Option.some (h, copy) }
              { world with opened := Option.some (h, copy) } h copy := ⟨rfl, rfl, rfl, rfl⟩
          refine (meets_perform editing ready.complete ready.operation).sequence
            (fun _ _ fails => ends_of_fails tables commits fails) ?_
          intro last _ performs
          exact meets_finish accepted owns table initialised performs

/-- In every run, with whatever memory there is and whatever `libiptc` answers, no block is freed
twice, no request is made of a handle that is not open, and nothing is passed that has no value.
The handle in `iptc_free` is open exactly where `iptc_commit` has left it open. -/
theorem main_allowed (lib : Libiptc Tables Copy) (tables : Tables) (argv : List CString)
    {trace : List (Exchange Call Answer)} {last : World Tables Copy} {request : Call}
    {next : Answer request → Process Unit}
    (run : Reaches lib.interface { tables } (main argv) trace last (.call request next)) :
    lib.interface.may last request :=
  ((meets_main lib rfl argv).reaches run).1

/-- A run changes the tables of the kernel once and as a whole, or not at all, and its status
says which. -/
theorem main_transaction (lib : Libiptc Tables Copy) (tables : Tables) (argv : List CString)
    {trace : List (Exchange Call Answer)} {last : World Tables Copy} {status : ExitStatus}
    (run : Reaches lib.interface { tables } (main argv) trace last (.exit status)) :
    Ends lib { tables } argv last status :=
  (meets_main lib rfl argv).reaches run

end Main

def newChainArguments : List CString :=
  [ascii "iptcmod", ascii "-N", ascii "web", ascii "-t", ascii "filter"]

/-- The last call of the program, with the handle that is still open. -/
theorem main_allowed_iptc_free :
    namesOnly.interface.may
      (namesOnly.interface.play namesOnly.answer 9 { tables := [ascii "INPUT"] }
        (main newChainArguments)).2.1 (.iptc_free 1) :=
  main_allowed namesOnly [ascii "INPUT"] newChainArguments
    (Interface.reaches_play namesOnly.answer_honest 9 _ _)

theorem main_transaction_newChain :
    Ends namesOnly { tables := [ascii "INPUT"] } newChainArguments
      (namesOnly.interface.play namesOnly.answer 20 { tables := [ascii "INPUT"] }
        (main newChainArguments)).2.1 .success :=
  main_transaction namesOnly [ascii "INPUT"] newChainArguments
    (Interface.reaches_play namesOnly.answer_honest 20 _ _)

end NetworkServices.Iptables.Iptcmod
