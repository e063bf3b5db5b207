import NetworkServices.Foundation.CString

/-! The rule that both `iptc.c` and `iptcmod.c` parse from their arguments. The
two files differ in the operations they define, which are a parameter here. -/

set_option autoImplicit false

namespace NetworkServices.Iptables

/-- `struct rule`. A null pointer is `none`; so is a `rule_num` never assigned,
since the structure comes from `malloc`. -/
structure Rule (Opcode : Type) where
  operation : Opcode
  chain : Option CString
  table : Option CString
  ruleNum : Option Int32
  deriving DecidableEq

/-- How `parse` ends: with a rule, with a null pointer after a message on the
standard error stream, or in `exit(EXIT_SUCCESS)` after the help text. -/
inductive Outcome (Opcode : Type) where
  | rule (rule : Rule Opcode)
  | null (message : CString)
  | help (text : CString)
  deriving DecidableEq

/-- `**argv == '-'`. -/
def beginsWithDash (arg : CString) : Bool :=
  arg.head? == some 45

def invalidArguments (argv : List CString) : CString :=
  ascii "parse(): invalid arguments\nTry '" ++ argv.headD [] ++ ascii " -h'\n"

def unknownOption (arg : CString) : CString :=
  ascii "Unknown option: " ++ arg ++ ascii "\n"

def Rule.map {Source Target : Type} (f : Source → Target) (rule : Rule Source) : Rule Target :=
  { operation := f rule.operation, chain := rule.chain, table := rule.table,
    ruleNum := rule.ruleNum }

/-- The options and the policies of both programs. -/
theorem options_distinct :
    ascii "-N" ≠ ascii "-t" ∧ ascii "-D" ≠ ascii "-t" ∧ ascii "-D" ≠ ascii "-N" ∧
      ascii "-P" ≠ ascii "-t" ∧ ascii "-P" ≠ ascii "-N" ∧ ascii "-P" ≠ ascii "-D" ∧
      ascii "-h" ≠ ascii "-t" ∧ ascii "-h" ≠ ascii "-N" ∧ ascii "-h" ≠ ascii "-D" ∧
      ascii "-h" ≠ ascii "-P" ∧ ascii "DROP" ≠ ascii "ACCEPT" := by
  decide

end NetworkServices.Iptables
