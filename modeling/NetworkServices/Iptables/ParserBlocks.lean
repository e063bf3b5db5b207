import NetworkServices.Iptables.Libiptc

/-! The blocks that `parse` of `iptcmod.c` allocates, next to the result it computes. -/

set_option autoImplicit false

namespace NetworkServices.Iptables.Iptcmod

variable {Tables Copy : Type}

/-- The blocks of a rule, in the order in which `free_rule` frees them. -/
def Allocated.blocks (r : Allocated Opcode) : List Block :=
  r.chain.toList.map Text.pointer ++ (r.table.toList.map Text.pointer ++ [r.block])

/-- A chain was copied exactly for the rules that have an operation, and the number of a rule
that is deleted has a value. -/
structure Allocated.Complete (r : Allocated Opcode) : Prop where
  chain : r.operation = .none ↔ r.chain = none
  ruleNum : r.operation = .deleteRule → r.ruleNum.isSome

/-- What the parser has no part in. -/
def World.outside (world : World Tables Copy) : Tables × List Tables × Option (Handle × Copy) :=
  (world.tables, world.commits, world.opened)

/-- The chain of an operation is copied where there is none yet. -/
theorem Allocated.Complete.blocks_chain {r : Allocated Opcode} (complete : r.Complete)
    (unset : r.operation = .none) (ptr : Text) :
    ({ r with chain := some ptr } : Allocated Opcode).blocks.Perm (ptr.pointer :: r.blocks) := by
  simp only [Allocated.blocks, complete.chain.mp unset]
  exact .refl _

theorem outside_eq_iff {start world : World Tables Copy} :
    world.outside = start.outside ↔
      world.tables = start.tables ∧ world.commits = start.commits ∧
        world.opened = start.opened := by
  simp only [World.outside, Prod.mk.injEq]

/-- Since `start` the blocks of `r` were added, and nothing else has changed. -/
structure Owns (start world : World Tables Copy) (r : Allocated Opcode) : Prop where
  blocks : world.blocks.Perm (r.blocks ++ start.blocks)
  printed : world.printed = start.printed
  outside : world.outside = start.outside

/-- Since `start` a text was printed. -/
structure Said (start world : World Tables Copy) (stream : Stream) (text : CString) : Prop where
  printed : world.printed = start.printed ++ [(stream, text)]
  outside : world.outside = start.outside

/-- How the program may exit while it parses: behind the help text, or without memory. -/
def ParserExits (start : World Tables Copy) (outcome : Outcome Opcode) (world : World Tables Copy) :
    ExitStatus → Prop
  | .success => ∃ text, outcome = .help text ∧ Said start world .stdout text ∧
      world.blocks.Perm start.blocks
  | .failure => Said start world .stderr (ascii "malloc() failed!\n")

/-- What the loop leaves: a rule to be looked at, or a message and a rule to be freed. -/
def LoopLeaves (start : World Tables Copy) (outcome : Outcome Opcode) (world : World Tables Copy) :
    Bool × Allocated Opcode → Prop
  | (false, r) => r.Complete ∧ Owns start world r ∧ outcome = finish r.rule
  | (true, r) => ∃ message, outcome = .null message ∧ Said start world .stderr message ∧
      world.blocks.Perm (r.blocks ++ start.blocks)

section Parser

variable {lib : Libiptc Tables Copy} {start world : World Tables Copy} {r : Allocated Opcode}
  {outcome : Outcome Opcode} {ended : World Tables Copy → ExitStatus → Prop}

theorem Owns.push (owns : Owns start world r) {ptr : Block} {r' : Allocated Opcode}
    (added : r'.blocks.Perm (ptr :: r.blocks)) :
    Owns start { world with blocks := ptr :: world.blocks } r' where
  blocks := (owns.blocks.cons ptr).trans (added.append_right start.blocks).symm
  printed := owns.printed
  outside := owns.outside

theorem Owns.said (owns : Owns start world r) (stream : Stream) (text : CString) :
    Said start { world with printed := world.printed ++ [(stream, text)] } stream text where
  printed := congrArg (· ++ [(stream, text)]) owns.printed
  outside := owns.outside

/-- `s_malloc` returns with one block more, or the program exits. -/
theorem meets_s_malloc {Result : Type} {next : Block → Process Result}
    {post : World Tables Copy → Result → Prop} {size : Nat}
    (printed : world.printed = start.printed) (outside : world.outside = start.outside)
    (later : ∀ ptr, Meets lib.interface (ParserExits start outcome) post
      { world with blocks := ptr :: world.blocks } (next ptr)) :
    Meets lib.interface (ParserExits start outcome) post world (s_malloc size >>= next) := by
  simp only [s_malloc, meets_bind, meets_call]
  refine ⟨trivial, ?_⟩
  intro answer _
  cases answer with
  | none =>
      simp only [fprintf, meets_bind, meets_exit]
      refine ⟨trivial, ?_⟩
      intro _ _
      exact ⟨congrArg (· ++ _) printed, outside⟩
  | some ptr => exact later ptr

theorem meets_copy {Result : Type} {next : Text → Process Result}
    {post : World Tables Copy → Result → Prop} {arg : CString} (owns : Owns start world r)
    (later : ∀ ptr, Meets lib.interface (ParserExits start outcome) post
      { world with blocks := ptr :: world.blocks } (next ⟨ptr, arg⟩)) :
    Meets lib.interface (ParserExits start outcome) post world (copy arg >>= next) := by
  rw [copy, meets_bind]
  refine meets_s_malloc owns.printed owns.outside ?_
  intro ptr
  exact later ptr

theorem meets_free {Result : Type} {next : Unit → Process Result}
    {post : World Tables Copy → Result → Prop} {block : Block} {rest : List Block}
    (owned : world.blocks.Perm (block :: rest))
    (later : ∀ blocks : List Block, blocks.Perm rest →
      Meets lib.interface ended post { world with blocks } (next ())) :
    Meets lib.interface ended post world (free block >>= next) := by
  rw [meets_bind]
  refine ⟨owned.mem_iff.mpr List.mem_cons_self, ?_⟩
  intro _ _
  refine later (world.blocks.erase block) ?_
  have removed := owned.erase block
  rwa [List.erase_cons_head] at removed

theorem meets_s_free {Result : Type} {next : Unit → Process Result}
    {post : World Tables Copy → Result → Prop} {text : Option Text} {rest : List Block}
    (owned : world.blocks.Perm (text.toList.map Text.pointer ++ rest))
    (later : ∀ blocks : List Block, blocks.Perm rest →
      Meets lib.interface ended post { world with blocks } (next ())) :
    Meets lib.interface ended post world (s_free text >>= next) := by
  cases text with
  | none => exact later world.blocks owned
  | some text => exact meets_free owned later

/-- `free_rule` frees the blocks of a rule and no others. -/
theorem meets_free_rule {Result : Type} {next : Unit → Process Result}
    {post : World Tables Copy → Result → Prop} {base : List Block}
    (owned : world.blocks.Perm (r.blocks ++ base))
    (later : ∀ blocks : List Block, blocks.Perm base →
      Meets lib.interface ended post { world with blocks } (next ())) :
    Meets lib.interface ended post world (free_rule (some r) >>= next) := by
  rw [Allocated.blocks, List.append_assoc, List.append_assoc] at owned
  simp only [free_rule, bind_assoc]
  refine meets_s_free owned ?_
  intro _ withoutChain
  refine meets_s_free withoutChain ?_
  intro _ withoutTable
  exact meets_free withoutTable later

theorem meets_parse_error {message : CString} (owns : Owns start world r)
    (same : outcome = .null message) :
    Meets lib.interface (ParserExits start outcome) (LoopLeaves start outcome) world
      (parse_error message r) := by
  rw [parse_error, meets_bind]
  refine ⟨trivial, ?_⟩
  intro _ _
  exact ⟨message, same, owns.said .stderr message, owns.blocks⟩

/-- A check of the loop: an argument that fails it is reported, and one that passes is read on. -/
theorem meets_check {condition : Prop} [Decidable condition] {message : CString}
    {program : Process (Bool × Allocated Opcode)} (owns : Owns start world r)
    (passed : ¬ condition → Meets lib.interface (ParserExits start outcome)
      (LoopLeaves start outcome) world program) :
    Meets lib.interface (ParserExits start (if condition then .null message else outcome))
      (LoopLeaves start (if condition then .null message else outcome)) world
      (if condition then parse_error message r else program) := by
  by_cases fails : condition
  · simp only [if_pos fails]
    exact meets_parse_error owns rfl
  · simp only [if_neg fails]
    exact passed fails

end Parser

/-- The loop keeps to the interface and ends as the arguments say, from every world in which the
blocks of its rule are the ones added. -/
def Parses (lib : Libiptc Tables Copy) (start : World Tables Copy) (r : Allocated Opcode)
    (args : List CString) : Prop :=
  ∀ world, Owns start world r →
    Meets lib.interface (ParserExits start (parseLoop r.rule args))
      (LoopLeaves start (parseLoop r.rule args)) world (parseArguments r args)

section Clauses

variable {lib : Libiptc Tables Copy} {start : World Tables Copy} {r : Allocated Opcode}
  {rest : List CString} (complete : r.Complete)
  (later : ∀ (r' : Allocated Opcode) (args : List CString), r'.Complete → args.length < rest.length →
    Parses lib start r' args)

include complete later

theorem parses_table : Parses lib start r (ascii "-t" :: rest) := by
  intro world owns
  rw [parseArguments.eq_def, parseLoop.eq_def]
  dsimp only
  rw [if_pos rfl, if_pos rfl]
  cases rest with
  | nil => exact meets_parse_error owns rfl
  | cons table rest =>
      refine meets_check owns fun _ => ?_
      have named : r.rule.table ≠ none ↔ r.table ≠ none := not_congr Option.map_eq_none_iff
      simp only [named]
      refine meets_check owns fun unnamed => meets_copy owns fun ptr => ?_
      refine later { r with table := some ⟨ptr, table⟩ } rest
        ⟨complete.chain, complete.ruleNum⟩ (Nat.lt_succ_self _) _ (owns.push ?_)
      simp only [Allocated.blocks, not_not.mp unnamed]
      exact List.perm_middle

theorem parses_newChain : Parses lib start r (ascii "-N" :: rest) := by
  intro world owns
  have distinct := options_distinct
  rw [parseArguments.eq_def, parseLoop.eq_def]
  dsimp only
  rw [if_neg distinct.1, if_neg distinct.1, if_pos rfl, if_pos rfl]
  refine meets_check owns fun unset => ?_
  cases rest with
  | nil => exact meets_parse_error owns rfl
  | cons chain rest =>
      refine meets_check owns fun _ => meets_copy owns fun ptr => ?_
      exact later { r with chain := some ⟨ptr, chain⟩, operation := .newChain } rest
        ⟨by simp, by simp⟩ (Nat.lt_succ_self _) _
        (owns.push (complete.blocks_chain (not_not.mp unset) ⟨ptr, chain⟩))

theorem parses_deleteRule : Parses lib start r (ascii "-D" :: rest) := by
  intro world owns
  have distinct := options_distinct
  rw [parseArguments.eq_def, parseLoop.eq_def]
  dsimp only
  simp only [distinct, if_true, if_false]
  refine meets_check owns fun unset => ?_
  cases rest with
  | nil => exact meets_parse_error owns rfl
  | cons chain rest =>
      refine meets_check owns fun _ => meets_copy owns fun ptr => ?_
      have grown := owns.push (complete.blocks_chain (not_not.mp unset) ⟨ptr, chain⟩)
      cases rest with
      | nil => exact meets_parse_error grown rfl
      | cons number rest =>
          refine meets_check grown fun _ => ?_
          refine meets_check (r := { r with chain := _, ruleNum := _ })
            ⟨grown.blocks, grown.printed, grown.outside⟩ fun _ => ?_
          exact later { r with chain := some ⟨ptr, chain⟩, operation := .deleteRule,
                               ruleNum := some (atoi number - 1) } rest
            ⟨by simp, by simp⟩ (Nat.lt_add_of_pos_right Nat.two_pos) _
            ⟨grown.blocks, grown.printed, grown.outside⟩

theorem parses_policy : Parses lib start r (ascii "-P" :: rest) := by
  intro world owns
  have distinct := options_distinct
  rw [parseArguments.eq_def, parseLoop.eq_def]
  dsimp only
  simp only [distinct, if_true, if_false]
  refine meets_check owns fun unset => ?_
  cases rest with
  | nil => exact meets_parse_error owns rfl
  | cons chain rest =>
      refine meets_check owns fun _ => meets_copy owns fun ptr => ?_
      have grown := owns.push (complete.blocks_chain (not_not.mp unset) ⟨ptr, chain⟩)
      cases rest with
      | nil => exact meets_parse_error grown rfl
      | cons policy rest =>
          refine meets_check grown fun _ => ?_
          by_cases accept : policy = ascii "ACCEPT"
          · simp only [if_pos accept]
            exact later { r with chain := some ⟨ptr, chain⟩, operation := .policyAccept } rest
              ⟨by simp, by simp⟩ (Nat.lt_add_of_pos_right Nat.two_pos) _
              ⟨grown.blocks, grown.printed, grown.outside⟩
          · simp only [if_neg accept]
            by_cases drop : policy = ascii "DROP"
            · simp only [if_pos drop]
              exact later { r with chain := some ⟨ptr, chain⟩, operation := .policyDrop } rest
                ⟨by simp, by simp⟩ (Nat.lt_add_of_pos_right Nat.two_pos) _
                ⟨grown.blocks, grown.printed, grown.outside⟩
            · simp only [if_neg drop]
              exact meets_parse_error grown rfl

end Clauses

/-- One clause is read after another. -/
theorem parses (lib : Libiptc Tables Copy) (start : World Tables Copy) {r : Allocated Opcode}
    (complete : r.Complete) (args : List CString) : Parses lib start r args := by
  induction length : args.length using Nat.strongRecOn generalizing r args with
  | ind length ih =>
      have later : ∀ (r' : Allocated Opcode) (args' : List CString), r'.Complete →
          args'.length + 1 < args.length + 1 → Parses lib start r' args' := by
        intro r' args' complete shorter
        exact ih args'.length (by omega) complete args' rfl
      cases args with
      | nil =>
          intro world owns
          exact ⟨complete, owns, rfl⟩
      | cons arg rest =>
          have later : ∀ (r' : Allocated Opcode) (args' : List CString), r'.Complete →
              args'.length < rest.length → Parses lib start r' args' := by
            intro r' args' complete shorter
            refine later r' args' complete ?_
            rw [List.length_cons]
            omega
          by_cases table : arg = ascii "-t"
          · rw [table]
            exact parses_table complete later
          by_cases newChain : arg = ascii "-N"
          · rw [newChain]
            exact parses_newChain complete later
          by_cases deleteRule : arg = ascii "-D"
          · rw [deleteRule]
            exact parses_deleteRule complete later
          by_cases policy : arg = ascii "-P"
          · rw [policy]
            exact parses_policy complete later
          intro world owns
          rw [parseArguments.eq_def, parseLoop.eq_def]
          simp only [table, newChain, deleteRule, policy, if_false]
          by_cases help : arg = ascii "-h"
          · simp only [if_pos help, fprintf]
            rw [meets_bind]
            refine ⟨trivial, ?_⟩
            intro _ _
            refine meets_free_rule owns.blocks ?_
            intro blocks freed
            have said := owns.said .stdout helpText
            exact ⟨helpText, rfl, ⟨said.printed, said.outside⟩, freed⟩
          · simp only [if_neg help]
            exact meets_parse_error owns rfl

/-- A rule with an operation, a chain and a table. -/
structure Allocated.Ready (r : Allocated Opcode) : Prop where
  complete : r.Complete
  operation : r.operation ≠ .none
  table : r.table ≠ none

/-- What `parse` returns: the rule that the arguments stand for, with its blocks, or a null
pointer behind the message and without a block. -/
def ParserReturns (start : World Tables Copy) (outcome : Outcome Opcode)
    (world : World Tables Copy) : Option (Allocated Opcode) → Prop
  | some r => r.Ready ∧ outcome = .rule r.rule ∧ Owns start world r
  | none => ∃ message, outcome = .null message ∧ Said start world .stderr message ∧
      world.blocks.Perm start.blocks

section Checks

variable {lib : Libiptc Tables Copy} {start world : World Tables Copy} {r : Allocated Opcode}
  {outcome : Outcome Opcode} {ended : World Tables Copy → ExitStatus → Prop}

/-- The end of `parse` after an error. -/
theorem meets_reject {message : CString} (same : outcome = .null message)
    (said : Said start world .stderr message)
    (blocks : world.blocks.Perm (r.blocks ++ start.blocks)) :
    Meets lib.interface ended (ParserReturns start outcome) world (do
      free_rule (some r)
      return none) := by
  refine meets_free_rule blocks ?_
  intro left freed
  exact ⟨message, same, ⟨said.printed, said.outside⟩, freed⟩

theorem meets_require_failed {message : CString} (owns : Owns start world r)
    (same : outcome = .null message) :
    Meets lib.interface ended (ParserReturns start outcome) world (do
      fprintf .stderr message
      free_rule (some r)
      return none) := by
  rw [fprintf, meets_bind]
  refine ⟨trivial, ?_⟩
  intro _ _
  exact meets_reject same (owns.said .stderr message) owns.blocks

theorem meets_parsed (complete : r.Complete) (owns : Owns start world r) :
    Meets lib.interface ended (ParserReturns start (finish r.rule)) world (do
      let error ← require false (r.operation = .none) (ascii "No option specified!\n")
      let error ← require error (r.table = none) (ascii "No table specified!\n")
      if error then do
        free_rule (some r)
        return none
      else return some r) := by
  by_cases unset : r.operation = .none
  · have message : finish r.rule = .null (ascii "No option specified!\n") := if_pos unset
    rw [message]
    simp only [require, unset]
    exact meets_require_failed owns rfl
  · have set : r.rule.operation ≠ .none := unset
    by_cases unnamed : r.table = none
    · have absent : r.rule.table = none := congrArg (Option.map Text.text) unnamed
      have message : finish r.rule = .null (ascii "No table specified!\n") := by
        rw [finish, if_neg set, if_pos absent]
      rw [message]
      simp only [require, unset, unnamed]
      exact meets_require_failed owns rfl
    · have named : r.rule.table ≠ none := mt Option.map_eq_none_iff.mp unnamed
      have accepted : finish r.rule = .rule r.rule := by
        rw [finish, if_neg set, if_neg named]
      simp only [require, unset, unnamed]
      exact ⟨⟨complete, unset, unnamed⟩, accepted, owns⟩

end Checks

/-- `parse` computes what its arguments say, and every block it has allocated is either freed
once or belongs to the rule it returns. -/
theorem meets_parseRule (lib : Libiptc Tables Copy) (start : World Tables Copy)
    (argv : List CString) :
    Meets lib.interface (ParserExits start (parse argv)) (ParserReturns start (parse argv)) start
      (parseRule argv) := by
  unfold parseRule parse
  by_cases few : argv.length < 2
  · simp only [if_pos few, fprintf]
    rw [meets_bind]
    refine ⟨trivial, ?_⟩
    intro _ _
    exact ⟨invalidArguments argv, rfl, ⟨rfl, rfl⟩, .refl _⟩
  · simp only [if_neg few]
    refine meets_s_malloc rfl rfl ?_
    intro block
    have owns : Owns start { start with blocks := block :: start.blocks }
        ⟨block, .none, none, none, none⟩ := ⟨.refl _, rfl, rfl⟩
    refine Meets.bind (parses lib start ⟨by simp, by simp⟩ argv.tail _ owns) ?_
    rintro world ⟨error, r⟩ left
    cases error with
    | true =>
        obtain ⟨message, outcome, said, blocks⟩ := left
        exact meets_reject outcome said blocks
    | false =>
        obtain ⟨complete, owns, outcome⟩ := left
        have result : parseLoop initial argv.tail = finish r.rule := outcome
        rw [result]
        exact meets_parsed complete owns

/-- Where `parse` returns, it returns what its arguments stand for, with exactly the blocks of
the rule in use, or with none of them behind the one message it has printed. -/
theorem parseRule_returns (lib : Libiptc Tables Copy) (start : World Tables Copy)
    (argv : List CString) {trace : List (Exchange Call Answer)} {last : World Tables Copy}
    {result : Option (Allocated Opcode)}
    (run : Reaches lib.interface start (parseRule argv) trace last (.done result)) :
    ParserReturns start (parse argv) last result :=
  (meets_parseRule lib start argv).reaches run

/-- Both blocks are freed behind the message for a missing table name. -/
theorem parseRule_returns_null :
    ParserReturns { tables := [ascii "INPUT"] }
      (parse [ascii "iptcmod", ascii "-N", ascii "web", ascii "-t"])
      (namesOnly.interface.play namesOnly.answer 20 { tables := [ascii "INPUT"] }
        (parseRule [ascii "iptcmod", ascii "-N", ascii "web", ascii "-t"])).2.1 none :=
  parseRule_returns namesOnly { tables := [ascii "INPUT"] } _
    (Interface.reaches_play namesOnly.answer_honest 20 _ _)

end NetworkServices.Iptables.Iptcmod
