import NetworkServices.Iptables.ArgumentGrammar
import NetworkServices.Iptables.Iptc

/-! `iptcmod.c` is a copy of `iptc.c` with one more option. The two loops are run
in lock step; they part only where `-P` is an unknown option to one of them. -/

set_option autoImplicit false

namespace NetworkServices.Iptables

def Iptc.Opcode.lift : Iptc.Opcode → Iptcmod.Opcode
  | .none => .none
  | .deleteRule => .deleteRule
  | .newChain => .newChain

theorem Iptc.Opcode.lift_eq_none_iff (operation : Iptc.Opcode) :
    operation.lift = .none ↔ operation = .none := by
  cases operation <;> simp [Iptc.Opcode.lift]

namespace Iptcmod

def Opcode.IsPolicy (operation : Opcode) : Prop :=
  operation = .policyAccept ∨ operation = .policyDrop

theorem parseLoop_operation {r out : Rule Opcode} {args : List CString}
    (set : r.operation ≠ .none) (parsed : parseLoop r args = .rule out) :
    out.operation = r.operation := by
  fun_induction parseLoop r args with
  | case1 r =>
      simp only [finish, if_neg set] at parsed
      split at parsed
      · cases parsed
      · cases parsed; rfl
  | case5 r table rest named first ih => exact ih set parsed
  | _ => first | cases parsed | contradiction

/-- What follows a first `-P` ends in a policy, unless it is refused or asks for help. -/
theorem parseLoop_policy {r out : Rule Opcode} {rest : List CString}
    (parsed : parseLoop r (ascii "-P" :: rest) = .rule out) : out.operation.IsPolicy := by
  have distinct := options_distinct
  rw [parseLoop.eq_def] at parsed
  simp only [distinct, if_true, if_false] at parsed
  split at parsed
  · cases parsed
  · split at parsed
    · cases parsed
    · rename_i chain rest
      split at parsed
      · cases parsed
      · split at parsed
        · cases parsed
        · split at parsed
          · cases parsed
          · split at parsed
            · refine .inl (parseLoop_operation ?_ parsed)
              nofun
            · split at parsed
              · refine .inr (parseLoop_operation ?_ parsed)
                nofun
              · cases parsed

end Iptcmod

/-- How an outcome of `iptcmod.c` extends one of `iptc.c` on the same arguments. -/
inductive Extends : Outcome Iptc.Opcode → Outcome Iptcmod.Opcode → Prop where
  | rule (rule : Rule Iptc.Opcode) : Extends (.rule rule) (.rule (rule.map Iptc.Opcode.lift))
  | help (text text' : CString) : Extends (.help text) (.help text')
  | null (message message' : CString) : Extends (.null message) (.null message')
  | policyRule (message : CString) (rule : Rule Iptcmod.Opcode) :
      rule.operation.IsPolicy → Extends (.null message) (.rule rule)
  | policyHelp (message text : CString) : Extends (.null message) (.help text)

private theorem extends_policy (message : CString) (r : Rule Iptcmod.Opcode)
    (rest : List CString) :
    Extends (.null message) (Iptcmod.parseLoop r (ascii "-P" :: rest)) := by
  cases parsed : Iptcmod.parseLoop r (ascii "-P" :: rest) with
  | rule out => exact .policyRule _ _ (Iptcmod.parseLoop_policy parsed)
  | null message' => exact .null _ _
  | help text => exact .policyHelp _ _

private theorem finish_extends (r : Rule Iptc.Opcode) :
    Extends (Iptc.finish r) (Iptcmod.finish (r.map Iptc.Opcode.lift)) := by
  have unset_iff : (r.map Iptc.Opcode.lift).operation = .none ↔ r.operation = .none :=
    r.operation.lift_eq_none_iff
  have unnamed_iff : (r.map Iptc.Opcode.lift).table = none ↔ r.table = none := .rfl
  rw [Iptc.finish, Iptcmod.finish]
  by_cases unset : r.operation = .none
  · rw [if_pos unset, if_pos (unset_iff.mpr unset)]
    exact .null _ _
  · rw [if_neg unset, if_neg (mt unset_iff.mp unset)]
    by_cases unnamed : r.table = none
    · rw [if_pos unnamed, if_pos (unnamed_iff.mpr unnamed)]
      exact .null _ _
    · rw [if_neg unnamed, if_neg (mt unnamed_iff.mp unnamed)]
      exact .rule r

/-- A clause that both loops read leaves them in rules that correspond. -/
private theorem extends_operation {r : Rule Iptc.Opcode} {operation : Iptcmod.Operation}
    {rest : List CString} {outcome : Outcome Iptc.Opcode}
    (wellFormed : operation.WellFormed Iptcmod.Numbered) (unset : ¬ r.operation ≠ .none)
    (extended : Extends outcome
      (Iptcmod.parseLoop (operation.assign (r.map Iptc.Opcode.lift)) rest)) :
    Extends outcome
      (Iptcmod.parseLoop (r.map Iptc.Opcode.lift) (operation.tokens ++ rest)) := by
  have unset' := r.operation.lift_eq_none_iff.mpr (not_not.mp unset)
  rw [Iptcmod.parseLoop_operation_tokens wellFormed unset' rest]
  exact extended

/-- The two loops in lock step, from rules that correspond. -/
theorem parseLoop_extends (r : Rule Iptc.Opcode) (args : List CString) :
    Extends (Iptc.parseLoop r args) (Iptcmod.parseLoop (r.map Iptc.Opcode.lift) args) := by
  fun_induction Iptc.parseLoop r args with
  | case1 r => exact finish_extends r
  | case5 r table rest plain unnamed ih =>
      rw [Iptcmod.parseLoop_table (not_not.mp unnamed) (eq_false_of_ne_true plain)]
      exact ih
  | case9 r unset chain rest plain _ ih =>
      have wellFormed : (Iptcmod.Operation.newChain chain).WellFormed Iptcmod.Numbered :=
        ⟨eq_false_of_ne_true plain, nofun, nofun⟩
      exact extends_operation wellFormed unset ih
  | case16 r unset chain plain number rest numberPlain numbered _ _ ih =>
      have wellFormed : (Iptcmod.Operation.deleteRule chain number).WellFormed
          Iptcmod.Numbered := by
        refine ⟨eq_false_of_ne_true plain, ?_, ?_⟩
        · rintro _ ⟨⟩
          exact eq_false_of_ne_true numberPlain
        · rintro _ ⟨⟩
          exact numbered
      exact extends_operation wellFormed unset ih
  | case17 r rest notTable notChain notDelete =>
      rw [Iptcmod.parseLoop_help]
      exact .help _ _
  | case18 r arg rest notTable notChain notDelete notHelp =>
      by_cases policy : arg = ascii "-P"
      · subst policy
        exact extends_policy _ _ _
      · rw [Iptcmod.parseLoop.eq_def]
        simp only [if_neg notTable, if_neg notChain, if_neg notDelete, if_neg policy,
          if_neg notHelp]
        exact .null _ _
  | _ =>
      rw [Iptcmod.parseLoop.eq_def]
      simp_all [Rule.map, Iptc.Opcode.lift_eq_none_iff]
      exact .null _ _

theorem Extends.rule_eq {outcome : Outcome Iptcmod.Opcode} {r : Rule Iptc.Opcode}
    (related : Extends (.rule r) outcome) : outcome = .rule (r.map Iptc.Opcode.lift) := by
  cases related with
  | rule => rfl

theorem Extends.help_eq {outcome : Outcome Iptcmod.Opcode} {text : CString}
    (related : Extends (.help text) outcome) : ∃ text', outcome = .help text' := by
  cases related with
  | help _ text' => exact ⟨text', rfl⟩

theorem Extends.of_rule {outcome : Outcome Iptc.Opcode} {r : Rule Iptcmod.Opcode}
    (related : Extends outcome (.rule r)) (noPolicy : ¬ r.operation.IsPolicy) :
    ∃ r', outcome = .rule r' ∧ r'.map Iptc.Opcode.lift = r := by
  cases related with
  | rule r' => exact ⟨r', rfl, rfl⟩
  | policyRule _ _ policy => exact absurd policy noPolicy

theorem parse_extends (argv : List CString) : Extends (Iptc.parse argv) (Iptcmod.parse argv) := by
  rw [Iptc.parse, Iptcmod.parse]
  by_cases short : argv.length < 2
  · rw [if_pos short, if_pos short]
    exact .null _ _
  · rw [if_neg short, if_neg short]
    exact parseLoop_extends Iptc.initial argv.tail

/-- `iptcmod.c` returns every rule `iptc.c` returns and helps wherever it does; the
rules it adds are those of `-P`. -/
theorem parse_conservative (argv : List CString) :
    (∀ r, Iptc.parse argv = .rule r → Iptcmod.parse argv = .rule (r.map Iptc.Opcode.lift)) ∧
      ((∃ text, Iptc.parse argv = .help text) → ∃ text, Iptcmod.parse argv = .help text) ∧
      ∀ r, Iptcmod.parse argv = .rule r → r.operation = .deleteRule ∨ r.operation = .newChain →
        ∃ r', Iptc.parse argv = .rule r' ∧ r'.map Iptc.Opcode.lift = r := by
  have related := parse_extends argv
  refine ⟨fun r parsed => ?_, fun ⟨text, parsed⟩ => ?_, fun r parsed old => ?_⟩
  · rw [parsed] at related
    exact related.rule_eq
  · rw [parsed] at related
    exact related.help_eq
  · rw [parsed] at related
    refine related.of_rule fun policy => ?_
    rcases policy with accept | drop
    · simp [accept] at old
    · simp [drop] at old

end NetworkServices.Iptables
