import NetworkServices.Iptables.ConservativeExtension
import NetworkServices.Iptables.IptcCommand
import NetworkServices.Iptables.ParserBlocks

/-! The programs of `iptc.c` and `iptcmod.c` next to each other. They make the same calls in
the same order, whatever they are answered, unless the arguments ask for help or for `-P`. -/

set_option autoImplicit false

namespace NetworkServices.Iptables.Iptc

open Iptcmod (Allocated Block Call Handle Text copy fprintf free_rule parse_error require s_malloc)

def lift (r : Allocated Opcode) : Allocated Iptcmod.Opcode where
  block := r.block
  operation := r.operation.lift
  chain := r.chain
  table := r.table
  ruleNum := r.ruleNum

/-- What both programs can end a loop with. -/
def Shared (outcome : Outcome Opcode) : Prop :=
  outcome ≠ .help helpText ∧ outcome ≠ .null (unknownOption (ascii "-P"))

/-- What is done behind the loop is the same for rules that correspond. -/
def Agree (next : Bool × Allocated Opcode → Iptcmod.Process Unit)
    (next' : Bool × Allocated Iptcmod.Opcode → Iptcmod.Process Unit) : Prop :=
  ∀ error r, next (error, r) = next' (error, lift r)

theorem unknownOption_injective {arg other : CString}
    (same : unknownOption arg = unknownOption other) : arg = other :=
  List.append_cancel_left (List.append_cancel_right same)

theorem shared_null_iff {message : CString} :
    Shared (.null message) ↔ message ≠ unknownOption (ascii "-P") := by
  simp [Shared]

section Calls

def firstCall : Iptcmod.Process Unit → Option Call
  | .call request _ => some request
  | _ => none

theorem firstCall_parse_error {message : CString} {r : Allocated Iptcmod.Opcode}
    {next : Bool × Allocated Iptcmod.Opcode → Iptcmod.Process Unit} :
    firstCall (parse_error message r >>= next) = some (.fprintf .stderr message) := rfl

/-- Programs that go on behind the same allocation go on alike for every block. -/
theorem s_malloc_eq_iff {size : Nat} {next next' : Block → Iptcmod.Process Unit} :
    (s_malloc size >>= next) = (s_malloc size >>= next') ↔ ∀ ptr, next ptr = next' ptr := by
  constructor
  · intro same ptr
    injection same with _ later
    exact congrFun later (some ptr)
  · intro same
    rw [funext same]

theorem copy_eq_iff {arg : CString} {next next' : Text → Iptcmod.Process Unit} :
    (copy arg >>= next) = (copy arg >>= next') ↔ ∀ ptr, next ⟨ptr, arg⟩ = next' ⟨ptr, arg⟩ := by
  simp only [copy, bind_assoc, pure_bind]
  exact s_malloc_eq_iff

end Calls

section Loop

variable {next : Bool × Allocated Opcode → Iptcmod.Process Unit}
  {next' : Bool × Allocated Iptcmod.Opcode → Iptcmod.Process Unit} {r : Allocated Opcode}
  {outcome : Outcome Opcode}

theorem same_parse_error (agree : Agree next next') (r : Allocated Opcode) {message : CString}
    (known : message ≠ unknownOption (ascii "-P")) :
    (parse_error message r >>= next) = (parse_error message (lift r) >>= next') ↔
      Shared (.null message) := by
  refine iff_of_true ?_ (shared_null_iff.mpr known)
  exact congrArg (Program.call (Call.fprintf .stderr message)) (funext fun _ => agree true r)

theorem same_check (agree : Agree next next') {condition condition' : Prop}
    [Decidable condition] [Decidable condition'] (same : condition' ↔ condition)
    {message : CString} (known : message ≠ unknownOption (ascii "-P"))
    {program : Iptcmod.Process (Bool × Allocated Opcode)}
    {program' : Iptcmod.Process (Bool × Allocated Iptcmod.Opcode)}
    (passed : ¬ condition → ((program >>= next) = (program' >>= next') ↔ Shared outcome)) :
    ((if condition then parse_error message r else program) >>= next) =
        ((if condition' then parse_error message (lift r) else program') >>= next') ↔
      Shared (if condition then .null message else outcome) := by
  by_cases fails : condition
  · simp only [if_pos fails, if_pos (same.mpr fails)]
    exact same_parse_error agree r known
  · simp only [if_neg fails, if_neg (mt same.mp fails)]
    exact passed fails

theorem same_copy {arg : CString} {program : Text → Iptcmod.Process (Bool × Allocated Opcode)}
    {program' : Text → Iptcmod.Process (Bool × Allocated Iptcmod.Opcode)}
    (same : ∀ ptr, (program ⟨ptr, arg⟩ >>= next) = (program' ⟨ptr, arg⟩ >>= next') ↔
      Shared outcome) :
    ((copy arg >>= program) >>= next) = ((copy arg >>= program') >>= next') ↔ Shared outcome := by
  rw [bind_assoc, bind_assoc, copy_eq_iff]
  constructor
  · intro every
    exact (same 0).mp (every 0)
  · intro shared ptr
    exact (same ptr).mpr shared

end Loop

/-- The loops of the two programs make the same calls, and leave what goes on alike. -/
def Same (r : Allocated Opcode) (args : List CString) : Prop :=
  ∀ next next', Agree next next' →
    ((parseArguments r args >>= next) = (Iptcmod.parseArguments (lift r) args >>= next') ↔
      Shared (parseLoop r.rule args))

section Clauses

variable {r : Allocated Opcode} {rest : List CString}
  (later : ∀ (r' : Allocated Opcode) (args : List CString), args.length < rest.length → Same r' args)

include later

theorem same_table : Same r (ascii "-t" :: rest) := by
  intro next next' agree
  rw [parseArguments.eq_def, Iptcmod.parseArguments.eq_def, parseLoop.eq_def]
  dsimp only
  rw [if_pos rfl, if_pos rfl, if_pos rfl]
  cases rest with
  | nil => exact same_parse_error agree r (by decide)
  | cons table rest =>
      refine same_check agree .rfl (by decide) fun _ => ?_
      have named : r.rule.table ≠ none ↔ r.table ≠ none := not_congr Option.map_eq_none_iff
      simp only [named]
      refine same_check agree .rfl (by decide) fun _ => same_copy fun ptr => ?_
      exact later { r with table := some ⟨ptr, table⟩ } rest (Nat.lt_succ_self _) next next' agree

theorem same_newChain : Same r (ascii "-N" :: rest) := by
  intro next next' agree
  have distinct := options_distinct
  rw [parseArguments.eq_def, Iptcmod.parseArguments.eq_def, parseLoop.eq_def]
  dsimp only
  simp only [distinct, if_true, if_false]
  refine same_check agree (not_congr r.operation.lift_eq_none_iff) (by decide) fun _ => ?_
  cases rest with
  | nil => exact same_parse_error agree r (by decide)
  | cons chain rest =>
      refine same_check agree .rfl (by decide) fun _ => same_copy fun ptr => ?_
      exact later { r with chain := some ⟨ptr, chain⟩, operation := .newChain } rest
        (Nat.lt_succ_self _) next next' agree

theorem same_deleteRule : Same r (ascii "-D" :: rest) := by
  intro next next' agree
  have distinct := options_distinct
  rw [parseArguments.eq_def, Iptcmod.parseArguments.eq_def, parseLoop.eq_def]
  dsimp only
  simp only [distinct, if_true, if_false]
  refine same_check agree (not_congr r.operation.lift_eq_none_iff) (by decide) fun _ => ?_
  cases rest with
  | nil => exact same_parse_error agree r (by decide)
  | cons chain rest =>
      refine same_check agree .rfl (by decide) fun _ => same_copy fun ptr => ?_
      cases rest with
      | nil => exact same_parse_error agree { r with chain := some ⟨ptr, chain⟩ } (by decide)
      | cons number rest =>
          refine @same_check _ _ { r with chain := some ⟨ptr, chain⟩ } _ agree _ _ _ _ .rfl _
            (by decide) _ _ fun _ => ?_
          refine @same_check _ _ { r with chain := some ⟨ptr, chain⟩, ruleNum := _ } _ agree _ _ _ _
            .rfl _ (by decide) _ _ fun _ => ?_
          exact later { r with chain := some ⟨ptr, chain⟩, operation := .deleteRule,
                               ruleNum := some (atoi number - 1) } rest
            (Nat.lt_add_of_pos_right Nat.two_pos) next next' agree

end Clauses

/-- An option that only one of the loops knows: the other one reports it at once. -/
theorem same_policy (r : Allocated Opcode) (rest : List CString) :
    Same r (ascii "-P" :: rest) := by
  intro next next' agree
  have distinct := options_distinct
  have unknown : ascii "-P" ≠ ascii "-h" := by decide
  rw [parseArguments.eq_def, Iptcmod.parseArguments.eq_def, parseLoop.eq_def]
  dsimp only
  simp only [distinct, unknown, if_true, if_false]
  refine iff_of_false ?_ (mt shared_null_iff.mp (not_not.mpr rfl))
  intro same
  have first : some (Call.fprintf .stderr (unknownOption (ascii "-P"))) = firstCall _ :=
    congrArg firstCall same
  split at first
  · rw [firstCall_parse_error] at first
    exact absurd first (by decide)
  · split at first
    · rw [firstCall_parse_error] at first
      exact absurd first (by decide)
    · split at first
      · rw [firstCall_parse_error] at first
        exact absurd first (by decide)
      · cases first

theorem same_help (r : Allocated Opcode) (rest : List CString) :
    Same r (ascii "-h" :: rest) := by
  intro next next' agree
  have distinct := options_distinct
  rw [parseArguments.eq_def, Iptcmod.parseArguments.eq_def, parseLoop.eq_def]
  dsimp only
  simp only [distinct, if_true, if_false]
  refine iff_of_false ?_ fun shared => shared.1 rfl
  intro same
  have first : some (Call.fprintf .stdout helpText) =
      some (Call.fprintf .stdout Iptcmod.helpText) := congrArg firstCall same
  injection first with printed
  injection printed with _ text
  rw [Iptcmod.helpText, ← helpText, List.self_eq_append_right] at text
  exact absurd text (by decide)

theorem shared_finish (r : Rule Opcode) : Shared (finish r) := by
  rw [finish]
  split
  · exact shared_null_iff.mpr (by decide)
  · split
    · exact shared_null_iff.mpr (by decide)
    · constructor
      · intro help
        cases help
      · intro null
        cases null

theorem same (r : Allocated Opcode) (args : List CString) : Same r args := by
  induction length : args.length using Nat.strongRecOn generalizing r args with
  | ind length ih =>
      cases args with
      | nil =>
          intro next next' agree
          exact iff_of_true (agree false r) (shared_finish r.rule)
      | cons arg rest =>
          have later : ∀ (r' : Allocated Opcode) (args' : List CString),
              args'.length < rest.length → Same r' args' := by
            intro r' args' shorter
            refine ih args'.length ?_ r' args' rfl
            rw [← length, List.length_cons]
            omega
          by_cases table : arg = ascii "-t"
          · rw [table]
            exact same_table later
          by_cases newChain : arg = ascii "-N"
          · rw [newChain]
            exact same_newChain later
          by_cases deleteRule : arg = ascii "-D"
          · rw [deleteRule]
            exact same_deleteRule later
          by_cases policy : arg = ascii "-P"
          · rw [policy]
            exact same_policy r rest
          by_cases help : arg = ascii "-h"
          · rw [help]
            exact same_help r rest
          intro next next' agree
          rw [parseArguments.eq_def, Iptcmod.parseArguments.eq_def, parseLoop.eq_def]
          simp only [table, newChain, deleteRule, policy, help, if_false]
          exact same_parse_error agree r (mt unknownOption_injective policy)

/-!
## The whole programs
-/

theorem free_rule_lift (r : Allocated Opcode) : free_rule (some (lift r)) = free_rule (some r) := rfl

theorem perform_lift (h : Handle) (r : Allocated Opcode) :
    Iptcmod.perform h (lift r) = perform h r := by
  rw [Iptcmod.perform, perform]
  cases operation : r.operation <;> simp [lift, operation, Opcode.lift] <;> rfl

/-- For any arguments the two programs are the same tree of calls exactly when `iptc.c` neither
prints its help nor comes to an option `-P`. -/
theorem main_eq_iff (argv : List CString) :
    main argv = Iptcmod.main argv ↔
      parse argv ≠ .help helpText ∧ parse argv ≠ .null (unknownOption (ascii "-P")) := by
  show _ ↔ Shared (parse argv)
  rw [main, Iptcmod.main, parseRule, Iptcmod.parseRule, parse]
  by_cases few : argv.length < 2
  · simp only [if_pos few]
    refine iff_of_true rfl (shared_null_iff.mpr ?_)
    intro invalid
    have first : some (112 : UInt8) = some 85 := congrArg List.head? invalid
    exact absurd first (by decide)
  · simp only [if_neg few, bind_assoc]
    rw [s_malloc_eq_iff]
    refine Iff.trans (forall_congr' fun ptr =>
      same ⟨ptr, .none, none, none, none⟩ argv.tail _ _ ?_) ?_
    · intro error r
      have unset : decide ((lift r).operation = .none) = decide (r.operation = .none) :=
        decide_eq_decide.mpr r.operation.lift_eq_none_iff
      simp only [unset]
      refine bind_congr fun error => bind_congr fun error => ?_
      cases error with
      | true =>
          simp only [if_true, bind_assoc, pure_bind]
          rw [free_rule_lift]
      | false =>
          refine congrArg (Program.call (Call.iptc_init r.tableText)) (funext fun handle => ?_)
          cases handle with
          | none => rfl
          | some h => exact congrArg (· >>= _) (perform_lift h r).symm
    · show (∀ _ : Block, Shared (parseLoop initial argv.tail)) ↔ _
      exact forall_const Block

end NetworkServices.Iptables.Iptc
