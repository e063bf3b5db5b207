import NetworkServices.Iptables.Iptcmod

/-! The clauses of an `iptcmod` command line, and the parser as a reader of
clauses. The grammar leaves open which numerals name a rule: the parser's own test
and the intended one are two instances. -/

set_option autoImplicit false

namespace NetworkServices.Iptables.Iptcmod

inductive Operation where
  | newChain (chain : CString)
  | deleteRule (chain number : CString)
  | policyAccept (chain : CString)
  | policyDrop (chain : CString)

namespace Operation

def tokens : Operation → List CString
  | .newChain chain => [ascii "-N", chain]
  | .deleteRule chain number => [ascii "-D", chain, number]
  | .policyAccept chain => [ascii "-P", chain, ascii "ACCEPT"]
  | .policyDrop chain => [ascii "-P", chain, ascii "DROP"]

def chain : Operation → CString
  | .newChain chain | .deleteRule chain _ | .policyAccept chain | .policyDrop chain => chain

def number : Operation → Option CString
  | .deleteRule _ number => some number
  | _ => none

def opcode : Operation → Opcode
  | .newChain _ => .newChain
  | .deleteRule _ _ => .deleteRule
  | .policyAccept _ => .policyAccept
  | .policyDrop _ => .policyDrop

theorem opcode_ne_none (operation : Operation) : operation.opcode ≠ .none := by
  cases operation <;> nofun

/-- No operand begins with a dash, and the numeral is one of those allowed. -/
structure WellFormed (numeral : CString → Prop) (operation : Operation) : Prop where
  chain : beginsWithDash operation.chain = false
  plain : ∀ number ∈ operation.number, beginsWithDash number = false
  number : ∀ number ∈ operation.number, numeral number

theorem WellFormed.mono {numeral numeral' : CString → Prop} {operation : Operation}
    (wellFormed : operation.WellFormed numeral)
    (weaker : ∀ number ∈ operation.number, numeral number → numeral' number) :
    operation.WellFormed numeral' :=
  ⟨wellFormed.chain, wellFormed.plain,
    fun number member => weaker number member (wellFormed.number number member)⟩

def assign (r : Rule Opcode) (operation : Operation) : Rule Opcode :=
  { operation := operation.opcode
    chain := some operation.chain
    table := r.table
    ruleNum := match operation.number with
      | some number => some (atoi number - 1)
      | none => r.ruleNum }

end Operation

inductive Clause where
  | table (name : CString)
  | operation (op : Operation)

namespace Clause

def tokens : Clause → List CString
  | .table name => [ascii "-t", name]
  | .operation op => op.tokens

def WellFormed (numeral : CString → Prop) : Clause → Prop
  | .table name => beginsWithDash name = false
  | .operation op => op.WellFormed numeral

/-- A clause is read only where its part of the rule is still open. -/
def step (r : Rule Opcode) : Clause → Option (Rule Opcode)
  | .table name => if r.table = none then some { r with table := some name } else none
  | .operation op => if r.operation = .none then some (op.assign r) else none

end Clause

/-- The numerals that pass the test behind `rule_num = atoi(*argv) - 1`. -/
def Numbered (number : CString) : Prop :=
  ¬ atoi number - 1 < 0

theorem parseLoop_table {r : Rule Opcode} {name : CString} (unnamed : r.table = none)
    (plain : beginsWithDash name = false) (rest : List CString) :
    parseLoop r (ascii "-t" :: name :: rest) = parseLoop { r with table := some name } rest := by
  rw [parseLoop.eq_def]
  simp [unnamed, plain]

theorem parseLoop_operation_tokens {r : Rule Opcode} {op : Operation}
    (wellFormed : op.WellFormed Numbered) (unset : r.operation = .none)
    (rest : List CString) :
    parseLoop r (op.tokens ++ rest) = parseLoop (op.assign r) rest := by
  obtain ⟨chainPlain, numberPlain, numbered⟩ := wellFormed
  have distinct := options_distinct
  cases op with
  | newChain chain =>
      have plain : beginsWithDash chain = false := chainPlain
      simp only [Operation.tokens, List.cons_append, List.nil_append]
      rw [parseLoop.eq_def]
      simp only [distinct, plain, unset, if_true, if_false, ne_eq, not_true_eq_false]
      rfl
  | deleteRule chain number =>
      have plain : beginsWithDash chain = false := chainPlain
      have numberPlain : beginsWithDash number = false := numberPlain number rfl
      have numbered : ¬ atoi number - 1 < 0 := numbered number rfl
      simp only [Operation.tokens, List.cons_append, List.nil_append]
      rw [parseLoop.eq_def]
      simp only [distinct, plain, numberPlain, numbered, unset, if_true, if_false, ne_eq,
        not_true_eq_false]
      rfl
  | policyAccept chain =>
      have plain : beginsWithDash chain = false := chainPlain
      have policyPlain : beginsWithDash (ascii "ACCEPT") = false := by decide
      simp only [Operation.tokens, List.cons_append, List.nil_append]
      rw [parseLoop.eq_def]
      simp only [distinct, plain, policyPlain, unset, if_true, if_false, ne_eq,
        not_true_eq_false]
      rfl
  | policyDrop chain =>
      have plain : beginsWithDash chain = false := chainPlain
      have policyPlain : beginsWithDash (ascii "DROP") = false := by decide
      have notAccept : ascii "DROP" ≠ ascii "ACCEPT" := by decide
      simp only [Operation.tokens, List.cons_append, List.nil_append]
      rw [parseLoop.eq_def]
      simp only [distinct, plain, policyPlain, notAccept, unset, if_true, if_false, ne_eq,
        not_true_eq_false]
      rfl

theorem parseLoop_help (r : Rule Opcode) (rest : List CString) :
    parseLoop r (ascii "-h" :: rest) = .help helpText := by
  have distinct : ascii "-h" ≠ ascii "-t" ∧ ascii "-h" ≠ ascii "-N" ∧ ascii "-h" ≠ ascii "-D" ∧
      ascii "-h" ≠ ascii "-P" := by decide
  rw [parseLoop.eq_def]
  simp only [distinct, if_true, if_false]

theorem parseLoop_clause {r r' : Rule Opcode} {clause : Clause}
    (wellFormed : clause.WellFormed Numbered) (step : clause.step r = some r')
    (rest : List CString) : parseLoop r (clause.tokens ++ rest) = parseLoop r' rest := by
  cases clause with
  | table name =>
      obtain ⟨unnamed, result⟩ := Option.ite_none_right_eq_some.mp step
      cases result
      exact parseLoop_table unnamed wellFormed rest
  | operation op =>
      obtain ⟨unset, result⟩ := Option.ite_none_right_eq_some.mp step
      cases result
      exact parseLoop_operation_tokens wellFormed unset rest

inductive Reads (numeral : CString → Prop) : Rule Opcode → List Clause → Rule Opcode → Prop where
  | nil (r : Rule Opcode) : Reads numeral r [] r
  | cons {r r' r'' : Rule Opcode} {clause : Clause} {clauses : List Clause} :
      clause.WellFormed numeral → clause.step r = some r' → Reads numeral r' clauses r'' →
      Reads numeral r (clause :: clauses) r''

theorem Reads.parseLoop {r r' : Rule Opcode} {clauses : List Clause}
    (reads : Reads Numbered r clauses r') (rest : List CString) :
    parseLoop r (clauses.flatMap Clause.tokens ++ rest) = parseLoop r' rest := by
  induction reads with
  | nil => rfl
  | cons wellFormed step _ ih =>
      rw [List.flatMap_cons, List.append_assoc, parseLoop_clause wellFormed step, ih]

/-- The ways an outcome other than a null pointer comes about. -/
inductive Explained : Rule Opcode → List CString → Outcome Opcode → Prop where
  | rule {r out : Rule Opcode} {clauses : List Clause} :
      Reads Numbered r clauses out → finish out = .rule out →
      Explained r (clauses.flatMap Clause.tokens) (.rule out)
  | help {r r' : Rule Opcode} {clauses : List Clause} (rest : List CString) :
      Reads Numbered r clauses r' →
      Explained r (clauses.flatMap Clause.tokens ++ ascii "-h" :: rest) (.help helpText)
  | null (r : Rule Opcode) (args : List CString) (message : CString) :
      Explained r args (.null message)

theorem Explained.clause {r r' : Rule Opcode} (clause : Clause) {args : List CString}
    {outcome : Outcome Opcode} (wellFormed : clause.WellFormed Numbered)
    (step : clause.step r = some r') (explained : Explained r' args outcome) :
    Explained r (clause.tokens ++ args) outcome := by
  cases explained with
  | rule reads complete =>
      rw [← List.flatMap_cons]
      exact .rule (.cons wellFormed step reads) complete
  | help rest reads =>
      rw [← List.append_assoc, ← List.flatMap_cons]
      exact .help rest (.cons wellFormed step reads)
  | null => exact .null _ _ _

theorem finish_eq_rule {r out : Rule Opcode} (finished : finish r = .rule out) :
    r = out ∧ r.operation ≠ .none ∧ r.table ≠ none := by
  simp only [finish] at finished
  split at finished
  · cases finished
  next set =>
    split at finished
    · cases finished
    next named => exact ⟨Outcome.rule.inj finished, set, named⟩

private theorem finish_explained (r : Rule Opcode) : Explained r [] (finish r) := by
  cases finished : finish r with
  | rule out =>
      obtain ⟨rfl, -, -⟩ := finish_eq_rule finished
      exact .rule (.nil r) finished
  | null message => exact .null _ _ _
  | help text =>
      simp only [finish] at finished
      split at finished
      · cases finished
      · split at finished <;> cases finished

/-- Every iteration of the loop either refuses, ends in the help text, or reads
one complete clause. -/
theorem parseLoop_explained (r : Rule Opcode) (args : List CString) :
    Explained r args (parseLoop r args) := by
  fun_induction parseLoop r args with
  | case1 r => exact finish_explained r
  | case5 r name rest plain unnamed ih =>
      exact .clause (.table name) (eq_false_of_ne_true plain)
        (if_pos (not_not.mp unnamed)) ih
  | case9 r unset chain rest plain _ ih =>
      refine .clause (.operation (.newChain chain)) ?_ (if_pos (not_not.mp unset)) ih
      exact ⟨eq_false_of_ne_true plain, nofun, nofun⟩
  | case16 r unset chain plain number rest numberPlain numbered _ _ ih =>
      refine .clause (.operation (.deleteRule chain number)) ?_
        (if_pos (not_not.mp unset)) ih
      refine ⟨eq_false_of_ne_true plain, ?_, ?_⟩
      · rintro _ ⟨⟩
        simpa using numberPlain
      · rintro _ ⟨⟩
        exact numbered
  | case22 r unset chain plain rest _ _ _ _ ih =>
      refine .clause (.operation (.policyAccept chain)) ?_ (if_pos (not_not.mp unset)) ih
      exact ⟨eq_false_of_ne_true plain, nofun, nofun⟩
  | case23 r unset chain plain rest _ _ _ _ _ ih =>
      refine .clause (.operation (.policyDrop chain)) ?_ (if_pos (not_not.mp unset)) ih
      exact ⟨eq_false_of_ne_true plain, nofun, nofun⟩
  | case25 r rest => exact Explained.help rest (.nil r)
  | _ => exact .null _ _ _

end NetworkServices.Iptables.Iptcmod
