import NetworkServices.Iptables.ArgumentGrammar

/-! The language `parse` accepts: one table clause and one operation clause in
either order. The parser subtracts one from the numeral before it tests the sign,
so one numeral that is not positive passes as well. -/

set_option autoImplicit false

namespace NetworkServices.Iptables.Iptcmod

def Operation.rule (table : CString) (op : Operation) : Rule Opcode :=
  { operation := op.opcode
    chain := some op.chain
    table := some table
    ruleNum := op.number.map fun number => atoi number - 1 }

inductive Accepts (numeral : CString → Prop) : List CString → Rule Opcode → Prop where
  | tableFirst {table : CString} {op : Operation} :
      beginsWithDash table = false → op.WellFormed numeral →
      Accepts numeral ([ascii "-t", table] ++ op.tokens) (op.rule table)
  | operationFirst {table : CString} {op : Operation} :
      beginsWithDash table = false → op.WellFormed numeral →
      Accepts numeral (op.tokens ++ [ascii "-t", table]) (op.rule table)

inductive HelpPrefix (numeral : CString → Prop) : List CString → Prop where
  | empty : HelpPrefix numeral []
  | table {table : CString} :
      beginsWithDash table = false → HelpPrefix numeral [ascii "-t", table]
  | operation {op : Operation} : op.WellFormed numeral → HelpPrefix numeral op.tokens
  | tableFirst {table : CString} {op : Operation} :
      beginsWithDash table = false → op.WellFormed numeral →
      HelpPrefix numeral ([ascii "-t", table] ++ op.tokens)
  | operationFirst {table : CString} {op : Operation} :
      beginsWithDash table = false → op.WellFormed numeral →
      HelpPrefix numeral (op.tokens ++ [ascii "-t", table])

def Helps (numeral : CString → Prop) (args : List CString) : Prop :=
  ∃ front rest, HelpPrefix numeral front ∧ args = front ++ ascii "-h" :: rest

/-!
## The parser's own language
-/

theorem Operation.assign_table (table : CString) (op : Operation) :
    op.assign { initial with table := some table } = op.rule table := by
  cases op <;> rfl

theorem Operation.table_assign (table : CString) (op : Operation) :
    { op.assign initial with table := some table } = op.rule table := by
  cases op <;> rfl

section Reads

variable {numeral : CString → Prop} {r r' out : Rule Opcode} {clause : Clause}
  {clauses : List Clause}

theorem step_cases (step : clause.step r = some r') :
    (∃ table, clause = .table table ∧ r.table = none ∧ r' = { r with table := some table }) ∨
      (∃ op, clause = .operation op ∧ r.operation = .none ∧ r' = op.assign r) := by
  cases clause with
  | table table =>
      obtain ⟨unnamed, result⟩ := Option.ite_none_right_eq_some.mp step
      exact .inl ⟨table, rfl, unnamed, (Option.some.inj result).symm⟩
  | operation op =>
      obtain ⟨unset, result⟩ := Option.ite_none_right_eq_some.mp step
      exact .inr ⟨op, rfl, unset, (Option.some.inj result).symm⟩

theorem Reads.of_full (reads : Reads numeral r clauses out) (set : r.operation ≠ .none)
    (named : r.table ≠ none) : clauses = [] ∧ out = r := by
  cases reads with
  | nil => exact ⟨rfl, rfl⟩
  | cons _ step _ =>
      rcases step_cases step with ⟨_, _, unnamed, _⟩ | ⟨_, _, unset, _⟩
      · exact absurd unnamed named
      · exact absurd unset set

theorem Reads.of_named (reads : Reads numeral r clauses out) (named : r.table ≠ none) :
    (clauses = [] ∧ out = r) ∨
      ∃ op : Operation, op.WellFormed numeral ∧ clauses = [.operation op] ∧ out = op.assign r := by
  cases reads with
  | nil => exact .inl ⟨rfl, rfl⟩
  | cons wellFormed step reads =>
      rcases step_cases step with ⟨_, _, unnamed, _⟩ | ⟨op, rfl, _, rfl⟩
      · exact absurd unnamed named
      · obtain ⟨rfl, rfl⟩ := reads.of_full op.opcode_ne_none named
        exact .inr ⟨op, wellFormed, rfl, rfl⟩

theorem Reads.of_set (reads : Reads numeral r clauses out) (set : r.operation ≠ .none) :
    (clauses = [] ∧ out = r) ∨
      ∃ table, beginsWithDash table = false ∧ clauses = [.table table] ∧
        out = { r with table := some table } := by
  cases reads with
  | nil => exact .inl ⟨rfl, rfl⟩
  | cons wellFormed step reads =>
      rcases step_cases step with ⟨table, rfl, _, rfl⟩ | ⟨_, _, unset, _⟩
      · obtain ⟨rfl, rfl⟩ := reads.of_full set (Option.some_ne_none _)
        exact .inr ⟨table, wellFormed, rfl, rfl⟩
      · exact absurd unset set

/-- From the initial rule the loop reads at most one clause of each kind, and a
rule that is complete has read both. -/
theorem Reads.of_initial (reads : Reads numeral initial clauses out) :
    HelpPrefix numeral (clauses.flatMap Clause.tokens) ∧
      (out.operation ≠ .none → out.table ≠ none →
        Accepts numeral (clauses.flatMap Clause.tokens) out) := by
  cases reads with
  | nil => exact ⟨.empty, fun set => absurd rfl set⟩
  | cons wellFormed step reads =>
      rcases step_cases step with ⟨table, rfl, _, rfl⟩ | ⟨op, rfl, _, rfl⟩
      · rcases reads.of_named (Option.some_ne_none _) with ⟨rfl, rfl⟩ | ⟨op, opWellFormed, rfl, rfl⟩
        · exact ⟨.table wellFormed, fun set => absurd rfl set⟩
        · rw [op.assign_table]
          simp only [List.flatMap_cons, List.flatMap_nil, List.append_nil]
          exact ⟨.tableFirst wellFormed opWellFormed,
            fun _ _ => .tableFirst wellFormed opWellFormed⟩
      · rcases reads.of_set op.opcode_ne_none with ⟨rfl, rfl⟩ | ⟨table, plain, rfl, rfl⟩
        · simp only [List.flatMap_cons, List.flatMap_nil, List.append_nil]
          exact ⟨.operation wellFormed, fun _ named => absurd rfl named⟩
        · rw [op.table_assign]
          simp only [List.flatMap_cons, List.flatMap_nil, List.append_nil]
          exact ⟨.operationFirst plain wellFormed, fun _ _ => .operationFirst plain wellFormed⟩

theorem Reads.table {table : CString} (plain : beginsWithDash table = false)
    (unnamed : r.table = none) :
    Reads numeral r [.table table] { r with table := some table } :=
  .cons plain (if_pos unnamed) (.nil _)

theorem Reads.operation {op : Operation} (wellFormed : op.WellFormed numeral)
    (unset : r.operation = .none) : Reads numeral r [.operation op] (op.assign r) :=
  .cons wellFormed (if_pos unset) (.nil _)

theorem Reads.tableFirst {table : CString} {op : Operation}
    (plain : beginsWithDash table = false) (wellFormed : op.WellFormed numeral) :
    Reads numeral initial [.table table, .operation op] (op.rule table) := by
  rw [← op.assign_table]
  exact .cons plain rfl (.operation wellFormed rfl)

theorem Reads.operationFirst {table : CString} {op : Operation}
    (plain : beginsWithDash table = false) (wellFormed : op.WellFormed numeral) :
    Reads numeral initial [.operation op, .table table] (op.rule table) := by
  rw [← op.table_assign]
  exact .cons wellFormed rfl (.table plain rfl)

end Reads

theorem finish_rule (table : CString) (op : Operation) :
    finish (op.rule table) = .rule (op.rule table) := by
  have set : (op.rule table).operation ≠ .none := op.opcode_ne_none
  have named : (op.rule table).table ≠ none := Option.some_ne_none table
  rw [finish, if_neg set, if_neg named]

theorem parseLoop_of_accepts {args : List CString} {r : Rule Opcode}
    (accepts : Accepts Numbered args r) : parseLoop initial args = .rule r := by
  cases accepts with
  | tableFirst plain wellFormed =>
      have read := (Reads.tableFirst plain wellFormed).parseLoop []
      simpa [Clause.tokens, parseLoop, finish_rule] using read
  | operationFirst plain wellFormed =>
      have read := (Reads.operationFirst plain wellFormed).parseLoop []
      simpa [Clause.tokens, parseLoop, finish_rule] using read

theorem parseLoop_rule_iff {args : List CString} {r : Rule Opcode} :
    parseLoop initial args = .rule r ↔ Accepts Numbered args r := by
  refine ⟨fun parsed => ?_, parseLoop_of_accepts⟩
  have explained := parseLoop_explained initial args
  rw [parsed] at explained
  cases explained with
  | rule reads complete =>
      obtain ⟨_, set, named⟩ := finish_eq_rule complete
      exact reads.of_initial.2 set named

theorem HelpPrefix.reads {numeral : CString → Prop} {front : List CString}
    (helps : HelpPrefix numeral front) :
    ∃ clauses r, Reads numeral initial clauses r ∧ front = clauses.flatMap Clause.tokens := by
  cases helps with
  | empty => exact ⟨[], initial, .nil _, rfl⟩
  | table plain => exact ⟨_, _, .table plain rfl, rfl⟩
  | operation wellFormed =>
      exact ⟨_, _, .operation wellFormed rfl, (List.append_nil _).symm⟩
  | tableFirst plain wellFormed =>
      exact ⟨_, _, .tableFirst plain wellFormed, by simp [Clause.tokens]⟩
  | operationFirst plain wellFormed =>
      exact ⟨_, _, .operationFirst plain wellFormed, by simp [Clause.tokens]⟩

theorem parseLoop_help_iff {args : List CString} :
    (∃ text, parseLoop initial args = .help text) ↔ Helps Numbered args := by
  constructor
  · intro helped
    obtain ⟨text, parsed⟩ := helped
    have explained := parseLoop_explained initial args
    rw [parsed] at explained
    cases explained with
    | help rest reads => exact ⟨_, rest, reads.of_initial.1, rfl⟩
  · intro helps
    obtain ⟨front, rest, helps, rfl⟩ := helps
    obtain ⟨clauses, r, reads, rfl⟩ := helps.reads
    exact ⟨helpText, (reads.parseLoop _).trans (parseLoop_help r rest)⟩

/-- The guard on `argc` refuses only what the loop would refuse as well. -/
private theorem parse_cases (argv : List CString) :
    parse argv = parseLoop initial argv.tail ∨
      argv.tail = [] ∧ parse argv = .null (invalidArguments argv) := by
  by_cases short : argv.length < 2
  · refine .inr ⟨List.eq_nil_of_length_eq_zero ?_, if_pos short⟩
    rw [List.length_tail]
    omega
  · exact .inl (if_neg short)

private theorem parseLoop_empty :
    parseLoop initial [] = .null (ascii "No option specified!\n") := rfl

theorem parse_rule_iff {argv : List CString} {r : Rule Opcode} :
    parse argv = .rule r ↔ Accepts Numbered argv.tail r := by
  rw [← parseLoop_rule_iff]
  rcases parse_cases argv with same | ⟨empty, null⟩
  · rw [same]
  · rw [empty, null, parseLoop_empty]
    exact ⟨nofun, nofun⟩

theorem parse_help_iff {argv : List CString} :
    (∃ text, parse argv = .help text) ↔ Helps Numbered argv.tail := by
  rw [← parseLoop_help_iff]
  rcases parse_cases argv with same | ⟨empty, null⟩
  · rw [same]
  · rw [empty, null, parseLoop_empty]
    exact ⟨nofun, nofun⟩

/-!
## The numeral that wraps around
-/

def Positive (number : CString) : Prop :=
  1 ≤ atoi number

/-- Subtracting one leaves a nonnegative `int` for the positive values, and for
the least one, which wraps around. -/
theorem numbered_iff (number : CString) :
    Numbered number ↔ Positive number ∨ atoi number = Int32.minValue := by
  have upper := (atoi number).toInt_lt
  have lower := (atoi number).le_toInt
  rw [Numbered, Positive, Int32.lt_iff_toInt_lt, Int32.le_iff_toInt_le, ← Int32.toInt_inj,
    Int32.toInt_sub, Int.bmod_def]
  simp only [Int32.toInt_zero, Int32.toInt_one, Int32.toInt_minValue]
  omega

def deleteNumber : List CString → Option CString
  | [] => none
  | arg :: rest => if arg = ascii "-D" then rest[1]? else deleteNumber rest

def front (args : List CString) : List CString :=
  args.takeWhile (· ≠ ascii "-h")

section Front

variable {numeral numeral' : CString → Prop} {args : List CString}

theorem ne_option_of_plain {arg : CString} (plain : beginsWithDash arg = false) :
    arg ≠ ascii "-h" ∧ arg ≠ ascii "-D" := by
  have dashes : beginsWithDash (ascii "-h") = true ∧ beginsWithDash (ascii "-D") = true := by
    decide
  constructor
  · rintro rfl
    exact absurd (plain.symm.trans dashes.1) (by decide)
  · rintro rfl
    exact absurd (plain.symm.trans dashes.2) (by decide)

theorem deleteNumber_front_table {table : CString} (plain : beginsWithDash table = false)
    (rest : List CString) :
    deleteNumber (front ([ascii "-t", table] ++ rest)) = deleteNumber (front rest) := by
  have distinct : ascii "-t" ≠ ascii "-h" ∧ ascii "-t" ≠ ascii "-D" := by decide
  simp [front, deleteNumber, distinct, ne_option_of_plain plain]

theorem deleteNumber_front_operation {op : Operation} (wellFormed : op.WellFormed numeral)
    (rest : List CString) :
    deleteNumber (front (op.tokens ++ rest)) = op.number.or (deleteNumber (front rest)) := by
  have plain := ne_option_of_plain wellFormed.chain
  have distinct : ascii "-N" ≠ ascii "-h" ∧ ascii "-N" ≠ ascii "-D" ∧ ascii "-D" ≠ ascii "-h" ∧
      ascii "-P" ≠ ascii "-h" ∧ ascii "-P" ≠ ascii "-D" ∧ ascii "ACCEPT" ≠ ascii "-h" ∧
      ascii "ACCEPT" ≠ ascii "-D" ∧ ascii "DROP" ≠ ascii "-h" ∧ ascii "DROP" ≠ ascii "-D" := by
    decide
  cases op with
  | newChain chain =>
      simp only [Operation.chain] at plain
      simp [front, deleteNumber, Operation.tokens, Operation.number, distinct, plain]
  | deleteRule chain number =>
      simp only [Operation.chain] at plain
      have numberPlain := ne_option_of_plain (wellFormed.plain number rfl)
      simp [front, deleteNumber, Operation.tokens, Operation.number, distinct, plain, numberPlain]
  | policyAccept chain =>
      simp only [Operation.chain] at plain
      simp [front, deleteNumber, Operation.tokens, Operation.number, distinct, plain]
  | policyDrop chain =>
      simp only [Operation.chain] at plain
      simp [front, deleteNumber, Operation.tokens, Operation.number, distinct, plain]

variable {rest : List CString}

theorem deleteNumber_tableFirst {table : CString} {op : Operation}
    (plain : beginsWithDash table = false) (wellFormed : op.WellFormed numeral)
    (stop : deleteNumber (front rest) = none) :
    deleteNumber (front ([ascii "-t", table] ++ op.tokens ++ rest)) = op.number := by
  rw [List.append_assoc, deleteNumber_front_table plain, deleteNumber_front_operation wellFormed,
    stop, Option.or_none]

theorem deleteNumber_operationFirst {table : CString} {op : Operation}
    (plain : beginsWithDash table = false) (wellFormed : op.WellFormed numeral)
    (stop : deleteNumber (front rest) = none) :
    deleteNumber (front (op.tokens ++ [ascii "-t", table] ++ rest)) = op.number := by
  rw [List.append_assoc, deleteNumber_front_operation wellFormed, deleteNumber_front_table plain,
    stop, Option.or_none]

theorem HelpPrefix.restrict {before : List CString} (helps : HelpPrefix numeral before)
    (stop : deleteNumber (front rest) = none)
    (stricter : ∀ number ∈ deleteNumber (front (before ++ rest)),
      numeral number → numeral' number) : HelpPrefix numeral' before := by
  cases helps with
  | empty => exact .empty
  | table plain => exact .table plain
  | operation wellFormed =>
      rw [deleteNumber_front_operation wellFormed, stop, Option.or_none] at stricter
      exact .operation (wellFormed.mono stricter)
  | tableFirst plain wellFormed =>
      rw [deleteNumber_tableFirst plain wellFormed stop] at stricter
      exact .tableFirst plain (wellFormed.mono stricter)
  | operationFirst plain wellFormed =>
      rw [deleteNumber_operationFirst plain wellFormed stop] at stricter
      exact .operationFirst plain (wellFormed.mono stricter)

theorem HelpPrefix.deleteNumber {before : List CString} (helps : HelpPrefix numeral before)
    (stop : deleteNumber (front rest) = none) :
    ∀ number ∈ Iptcmod.deleteNumber (front (before ++ rest)), numeral number := by
  cases helps with
  | empty => simp [stop]
  | table plain =>
      rw [deleteNumber_front_table plain, stop]
      nofun
  | operation wellFormed =>
      rw [deleteNumber_front_operation wellFormed, stop, Option.or_none]
      exact wellFormed.number
  | tableFirst plain wellFormed =>
      rw [deleteNumber_tableFirst plain wellFormed stop]
      exact wellFormed.number
  | operationFirst plain wellFormed =>
      rw [deleteNumber_operationFirst plain wellFormed stop]
      exact wellFormed.number

theorem Helps.restrict (helps : Helps numeral args)
    (stricter : ∀ number ∈ deleteNumber (front args), numeral number → numeral' number) :
    Helps numeral' args := by
  obtain ⟨before, rest, helps, rfl⟩ := helps
  have stop : Iptcmod.deleteNumber (front (ascii "-h" :: rest)) = none := by
    simp [front, Iptcmod.deleteNumber]
  exact ⟨before, rest, helps.restrict stop stricter, rfl⟩

theorem Helps.deleteNumber (helps : Helps numeral args) :
    ∀ number ∈ Iptcmod.deleteNumber (front args), numeral number := by
  obtain ⟨before, rest, helps, rfl⟩ := helps
  exact helps.deleteNumber (by simp [front, Iptcmod.deleteNumber])

theorem Accepts.restrict {r : Rule Opcode} (accepts : Accepts numeral args r)
    (stricter : ∀ number ∈ deleteNumber (front args), numeral number → numeral' number) :
    Accepts numeral' args r := by
  cases accepts with
  | tableFirst plain wellFormed =>
      rw [← List.append_nil (_ ++ _), deleteNumber_tableFirst plain wellFormed rfl] at stricter
      exact .tableFirst plain (wellFormed.mono stricter)
  | operationFirst plain wellFormed =>
      rw [← List.append_nil (_ ++ _), deleteNumber_operationFirst plain wellFormed rfl] at stricter
      exact .operationFirst plain (wellFormed.mono stricter)

theorem Accepts.deleteNumber {r : Rule Opcode} (accepts : Accepts numeral args r) :
    ∀ number ∈ Iptcmod.deleteNumber (front args), numeral number := by
  cases accepts with
  | tableFirst plain wellFormed =>
      rw [← List.append_nil (_ ++ _), deleteNumber_tableFirst plain wellFormed rfl]
      exact wellFormed.number
  | operationFirst plain wellFormed =>
      rw [← List.append_nil (_ ++ _), deleteNumber_operationFirst plain wellFormed rfl]
      exact wellFormed.number

end Front

/-- What `parse` is meant to do: return the rule of a full command line, print the
help text behind a prefix of one, and refuse everything else, where the numeral of
a `-D` clause is at least one. -/
structure MeetsGrammar (argv : List CString) : Prop where
  rule : ∀ r, parse argv = .rule r ↔ Accepts Positive argv.tail r
  help : (∃ text, parse argv = .help text) ↔ Helps Positive argv.tail
  null : (∃ message, parse argv = .null message) ↔
    ¬ (∃ r, Accepts Positive argv.tail r) ∧ ¬ Helps Positive argv.tail

/-- A command line that is complete, up to the first `-h`, but for the numeral of
its `-D` clause, which `atoi` reads as the least `int`. -/
structure WrapsAround (args : List CString) : Prop where
  least : ∃ number ∈ deleteNumber (front args), atoi number = Int32.minValue
  complete : (∃ r, Accepts Numbered args r) ∨ Helps Numbered args

private theorem positive_of_numbered {args : List CString} (noWrap : ¬ WrapsAround args)
    (complete : (∃ r, Accepts Numbered args r) ∨ Helps Numbered args) :
    ∀ number ∈ deleteNumber (front args), Numbered number → Positive number := by
  intro number member numbered
  rcases (numbered_iff number).mp numbered with positive | least
  · exact positive
  · exact absurd ⟨⟨number, member, least⟩, complete⟩ noWrap

private theorem not_positive_least {number : CString} (positive : Positive number)
    (least : atoi number = Int32.minValue) : False := by
  rw [Positive, least] at positive
  exact absurd positive (by decide)

/-- `parse` meets its grammar except where the least `int` wraps around. -/
theorem parse_meetsGrammar_iff (argv : List CString) :
    MeetsGrammar argv ↔ ¬ WrapsAround argv.tail := by
  constructor
  · intro meets wraps
    obtain ⟨number, member, least⟩ := wraps.least
    rcases wraps.complete with ⟨r, accepts⟩ | helps
    · have positive := (meets.rule r).mp (parse_rule_iff.mpr accepts)
      exact not_positive_least (positive.deleteNumber number member) least
    · have positive := meets.help.mp (parse_help_iff.mpr helps)
      exact not_positive_least (positive.deleteNumber number member) least
  · intro noWrap
    have weaken (number : CString) (positive : Positive number) : Numbered number :=
      (numbered_iff number).mpr (.inl positive)
    have rule_iff (r : Rule Opcode) : parse argv = .rule r ↔ Accepts Positive argv.tail r := by
      rw [parse_rule_iff]
      exact ⟨fun accepts => accepts.restrict (positive_of_numbered noWrap (.inl ⟨r, accepts⟩)),
        fun accepts => accepts.restrict fun number _ => weaken number⟩
    have help_iff : (∃ text, parse argv = .help text) ↔ Helps Positive argv.tail := by
      rw [parse_help_iff]
      exact ⟨fun helps => helps.restrict (positive_of_numbered noWrap (.inr helps)),
        fun helps => helps.restrict fun number _ => weaken number⟩
    refine ⟨rule_iff, help_iff, ?_⟩
    rw [← help_iff, exists_congr fun r => (rule_iff r).symm]
    cases parse argv <;> simp

def leastNumeral : List CString :=
  [ascii "iptcmod", ascii "-t", ascii "filter", ascii "-D", ascii "INPUT",
    ascii " -2147483648"]

/-- The numeral is read as the least `int`, and the rule deleted is number `2 ^ 31 - 1`. -/
theorem leastNumeral_accepted :
    parse leastNumeral = .rule ⟨.deleteRule, some (ascii "INPUT"), some (ascii "filter"),
      some 2147483647⟩ ∧ ¬ MeetsGrammar leastNumeral := by
  have parsed : parse leastNumeral = .rule ⟨.deleteRule, some (ascii "INPUT"),
      some (ascii "filter"), some 2147483647⟩ := by decide
  refine ⟨parsed, fun meets => ?_⟩
  have positive := ((meets.rule _).mp parsed).deleteNumber (ascii " -2147483648") (by decide)
  exact not_positive_least positive (by decide)

end NetworkServices.Iptables.Iptcmod
