import NetworkServices.Iptables.AcceptedLanguage
import NetworkServices.Iptables.ConservativeExtension

/-! The rule that `-D` deletes. `atoi` stops at the first character that is no digit and
keeps 32 bits of the value, so a rule can be deleted that was not named. -/

set_option autoImplicit false

namespace NetworkServices.Iptables

/-- The numeral names a rule, counted from one, and this is the rule to delete. -/
def Names {Opcode : Type} (number : CString) (rule : Rule Opcode) : Prop :=
  IsNumeral number ∧ 1 ≤ digitsValue 0 number ∧
    ∃ ruleNum ∈ rule.ruleNum, ruleNum.toInt = digitsValue 0 number - 1

def Iptc.DeletesNamed (argv : List CString) : Prop :=
  ∀ r, parse argv = .rule r → r.operation = .deleteRule →
    ∃ number ∈ Iptcmod.deleteNumber argv.tail, Names number r

namespace Iptcmod

def DeletesNamed (argv : List CString) : Prop :=
  ∀ r, parse argv = .rule r → r.operation = .deleteRule →
    ∃ number ∈ deleteNumber argv.tail, Names number r

section Accepted

variable {numeral : CString → Prop} {args : List CString} {r : Rule Opcode}

theorem Operation.WellFormed.tokens_ne_help {op : Operation} (wellFormed : op.WellFormed numeral) :
    ∀ token ∈ op.tokens, token ≠ ascii "-h" := by
  obtain ⟨chainPlain, numberPlain, -⟩ := wellFormed
  have chain := (ne_option_of_plain chainPlain).1
  have distinct : ascii "-N" ≠ ascii "-h" ∧ ascii "-D" ≠ ascii "-h" ∧ ascii "-P" ≠ ascii "-h" ∧
      ascii "ACCEPT" ≠ ascii "-h" ∧ ascii "DROP" ≠ ascii "-h" := by
    decide
  cases op with
  | newChain | policyAccept | policyDrop =>
      simpa [Operation.tokens, Operation.chain, distinct] using chain
  | deleteRule name number =>
      have number := (ne_option_of_plain (numberPlain number rfl)).1
      simpa [Operation.tokens, Operation.chain, distinct] using And.intro chain number

theorem Accepts.front_eq (accepts : Accepts numeral args r) : front args = args := by
  have option : ascii "-t" ≠ ascii "-h" := by decide
  refine List.takeWhile_eq_self_iff.mpr ?_
  cases accepts with
  | tableFirst plain wellFormed =>
      have table := (ne_option_of_plain plain).1
      have tokens := wellFormed.tokens_ne_help
      simpa [option, table] using tokens
  | operationFirst plain wellFormed =>
      have table := (ne_option_of_plain plain).1
      have tokens := wellFormed.tokens_ne_help
      intro token member
      rcases List.mem_append.mp member with early | late
      · simpa using tokens token early
      · rcases List.mem_cons.mp late with first | second
        · simpa [first] using option
        · simpa [List.mem_singleton.mp second] using table

/-- The argument behind `-D` and its chain is the numeral the rule was made from. -/
theorem Accepts.operation_eq (accepts : Accepts numeral args r) :
    ∃ (table : CString) (op : Operation), op.WellFormed numeral ∧ r = op.rule table ∧
      Iptcmod.deleteNumber args = op.number := by
  have whole := accepts.front_eq
  cases accepts with
  | @tableFirst table op plain wellFormed =>
      have number : Iptcmod.deleteNumber (front ([ascii "-t", table] ++ op.tokens ++ [])) =
          op.number := deleteNumber_tableFirst plain wellFormed rfl
      rw [List.append_nil, whole] at number
      exact ⟨table, op, wellFormed, rfl, number⟩
  | @operationFirst table op plain wellFormed =>
      have number : Iptcmod.deleteNumber (front (op.tokens ++ [ascii "-t", table] ++ [])) =
          op.number := deleteNumber_operationFirst plain wellFormed rfl
      rw [List.append_nil, whole] at number
      exact ⟨table, op, wellFormed, rfl, number⟩

theorem Accepts.deleted (accepts : Accepts numeral args r) {number : CString}
    (member : number ∈ Iptcmod.deleteNumber args) :
    numeral number ∧ r.operation = .deleteRule ∧ r.ruleNum = some (atoi number - 1) := by
  obtain ⟨table, op, wellFormed, rfl, same⟩ := accepts.operation_eq
  rw [same] at member
  refine ⟨wellFormed.number number member, ?_⟩
  cases op with
  | newChain | policyAccept | policyDrop => cases member
  | deleteRule chain =>
      cases member
      exact ⟨rfl, rfl⟩

theorem Accepts.exists_number (accepts : Accepts numeral args r)
    (deletes : r.operation = .deleteRule) : ∃ number, number ∈ Iptcmod.deleteNumber args := by
  obtain ⟨table, op, -, rfl, same⟩ := accepts.operation_eq
  rw [same]
  cases op with
  | newChain | policyAccept | policyDrop => cases deletes
  | deleteRule chain number => exact ⟨number, rfl⟩

end Accepted

/-- A complete command line that deletes a rule, whose numeral is not made of digits
alone or is beyond `2 ^ 31` and still passes the test of the parser. -/
structure Misnumbered (args : List CString) : Prop where
  complete : ∃ r, Accepts Numbered args r
  number : ∃ number ∈ deleteNumber args,
    ¬ (IsNumeral number ∧ digitsValue 0 number ≤ 2147483648)

section Number

variable {number : CString}

/-- Up to `2 ^ 31` the number of the rule is right, for the least `int` wraps around. -/
theorem names_number_iff (numeral : IsNumeral number) (numbered : Numbered number) :
    1 ≤ digitsValue 0 number ∧ (atoi number - 1).toInt = (digitsValue 0 number : Int) - 1 ↔
      digitsValue 0 number ≤ 2147483648 := by
  have bound := (atoi number - 1).toInt_lt
  have nonneg : 0 ≤ (atoi number - 1).toInt := by
    unfold Numbered at numbered
    rw [Int32.lt_iff_toInt_lt] at numbered
    exact Int.not_lt.mp numbered
  constructor
  · intro named
    omega
  · intro small
    have value : strtol number = digitsValue 0 number := by
      rw [strtol_of_isNumeral numeral]
      omega
    have wrapped : (atoi number - 1).toInt = ((digitsValue 0 number : Int) - 1).bmod 4294967296 := by
      unfold atoi
      rw [value, Int32.toInt_sub, Int32.toInt_ofInt, Int32.toInt_one]
      exact Int.bmod_sub_bmod
    have inRange : ((digitsValue 0 number : Int) - 1).bmod 4294967296 = digitsValue 0 number - 1 := by
      rw [Int.bmod_def]
      omega
    omega

theorem Accepts.names_iff {args : List CString} {r : Rule Opcode} (accepts : Accepts Numbered args r)
    (member : number ∈ Iptcmod.deleteNumber args) :
    Names number r ↔ IsNumeral number ∧ digitsValue 0 number ≤ 2147483648 := by
  obtain ⟨numbered, -, ruleNum⟩ := accepts.deleted member
  unfold Names
  rw [ruleNum]
  refine and_congr_right fun numeral => ?_
  rw [← names_number_iff numeral numbered]
  simp only [Option.mem_some_iff, exists_eq_left']

theorem deletesNamed_iff_not_misnumbered (argv : List CString) :
    DeletesNamed argv ↔ ¬ Misnumbered argv.tail := by
  constructor
  · intro deletes misnumbered
    obtain ⟨⟨r, accepts⟩, number, member, wrong⟩ := misnumbered
    obtain ⟨other, otherMember, names⟩ :=
      deletes r (parse_rule_iff.mpr accepts) (accepts.deleted member).2.1
    cases Option.mem_unique member otherMember
    exact wrong ((accepts.names_iff member).mp names)
  · intro fine r parsed deletes
    have accepts := parse_rule_iff.mp parsed
    obtain ⟨number, member⟩ := accepts.exists_number deletes
    refine ⟨number, member, (accepts.names_iff member).mpr ?_⟩
    exact Decidable.not_not.mp fun wrong => fine ⟨⟨r, accepts⟩, number, member, wrong⟩

end Number

end Iptcmod

/-- Where `iptc.c` returns a rule that deletes, `iptcmod.c` returns the same, and the other
way round. -/
theorem deletesNamed_iptc_iff (argv : List CString) :
    Iptc.DeletesNamed argv ↔ Iptcmod.DeletesNamed argv := by
  have related := parse_extends argv
  constructor
  · intro deletes r parsed deleteRule
    rw [parsed] at related
    have noPolicy : ¬ r.operation.IsPolicy := by
      rw [deleteRule]
      intro policy
      rcases policy with accept | drop
      · cases accept
      · cases drop
    obtain ⟨r', parsed', rfl⟩ := related.of_rule noPolicy
    refine deletes r' parsed' ?_
    cases operation : r'.operation with
    | deleteRule => rfl
    | none | newChain =>
        unfold Rule.map at deleteRule
        rw [operation] at deleteRule
        cases deleteRule
  · intro deletes r parsed deleteRule
    rw [parsed] at related
    have lifted : (r.map Iptc.Opcode.lift).operation = .deleteRule :=
      congrArg Iptc.Opcode.lift deleteRule
    exact deletes (r.map Iptc.Opcode.lift) related.rule_eq lifted

/-- For both programs, and for numerals of any length. -/
theorem deletesNamed_iff (argv : List CString) :
    (Iptc.DeletesNamed argv ↔ ¬ Iptcmod.Misnumbered argv.tail) ∧
      (Iptcmod.DeletesNamed argv ↔ ¬ Iptcmod.Misnumbered argv.tail) := by
  rw [deletesNamed_iptc_iff]
  exact ⟨Iptcmod.deletesNamed_iff_not_misnumbered argv, Iptcmod.deletesNamed_iff_not_misnumbered argv⟩

def wideNumeral : List CString :=
  [ascii "iptc", ascii "-t", ascii "filter", ascii "-D", ascii "INPUT", ascii "4294967297"]

/-- Rule `2 ^ 32 + 1` is named, and the first rule of the chain is deleted. -/
theorem wideNumeral_deletes_first :
    Iptc.parse wideNumeral = .rule ⟨.deleteRule, some (ascii "INPUT"), some (ascii "filter"), some 0⟩ ∧
      ¬ Iptc.DeletesNamed wideNumeral ∧ ¬ Iptcmod.DeletesNamed wideNumeral := by
  have parsed : Iptc.parse wideNumeral =
      .rule ⟨.deleteRule, some (ascii "INPUT"), some (ascii "filter"), some 0⟩ := by decide
  have wrong : ¬ Iptc.DeletesNamed wideNumeral := by
    intro deletes
    obtain ⟨number, member, -, -, ruleNum, same, value⟩ := deletes _ parsed rfl
    cases same
    have last : number = ascii "4294967297" := by
      have found : Iptcmod.deleteNumber wideNumeral.tail = some (ascii "4294967297") := by decide
      exact Option.mem_unique member found
    rw [last] at value
    revert value
    decide
  exact ⟨parsed, wrong, mt (deletesNamed_iptc_iff wideNumeral).mpr wrong⟩

end NetworkServices.Iptables
