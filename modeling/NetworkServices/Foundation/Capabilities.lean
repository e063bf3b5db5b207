import NetworkServices.Foundation.Credentials
import Mathlib.Data.Finset.Basic
import Mathlib.Logic.Relation

/-! The privileges of a process that has user ids and capabilities, and the system calls that
change them, without secure bits and without `execve`. -/

set_option autoImplicit false

namespace NetworkServices

structure Privileges (Id Capability : Type) where
  ids : Credentials Id
  permitted : Finset Capability
  effective : Finset Capability
  contained : effective ⊆ permitted
  deriving DecidableEq

inductive PrivilegeCall (Id Capability : Type) where
  | credentials (call : CredentialCall Id)
  | capset (permitted effective : Finset Capability)

namespace Privileges

variable {Id Capability : Type} [DecidableEq Id] [DecidableEq Capability]

/-- What the ids do to the capabilities. Who gives up the last privileged id loses all of them,
and the effective ones follow the effective id. -/
def changeIds (root : Id) (process : Privileges Id Capability) (ids : Credentials Id) :
    Privileges Id Capability :=
  if process.ids.Holds root ∧ ¬ ids.Holds root then ⟨ids, ∅, ∅, Finset.empty_subset _⟩
  else if process.ids.effective = root ∧ ids.effective ≠ root then
    ⟨ids, process.permitted, ∅, Finset.empty_subset _⟩
  else if process.ids.effective ≠ root ∧ ids.effective = root then
    ⟨ids, process.permitted, process.permitted, Finset.Subset.refl _⟩
  else { process with ids := ids }

section ChangeIds

variable (root : Id) (process : Privileges Id Capability) (ids : Credentials Id)

omit [DecidableEq Capability] in
@[simp] theorem ids_changeIds : (process.changeIds root ids).ids = ids := by
  unfold changeIds
  split
  · rfl
  · split
    · rfl
    · split <;> rfl

omit [DecidableEq Capability] in
theorem permitted_changeIds : (process.changeIds root ids).permitted =
    if process.ids.Holds root ∧ ¬ ids.Holds root then ∅ else process.permitted := by
  unfold changeIds
  split
  · rfl
  · split
    · rfl
    · split <;> rfl

theorem effective_changeIds_subset {ids : Credentials Id} (unprivileged : ids.effective ≠ root) :
    (process.changeIds root ids).effective ⊆ process.effective := by
  unfold changeIds
  split
  · exact Finset.empty_subset _
  · split
    · exact Finset.empty_subset _
    · rw [if_neg fun raised => unprivileged raised.2]

/-- Ids that are not the privileged user's keep the effective capabilities exactly if there
was none of his to give up. -/
theorem mem_effective_changeIds_iff {ids : Credentials Id} (dropped : ids.Dropped root)
    {capability : Capability} :
    capability ∈ (process.changeIds root ids).effective ↔
      capability ∈ process.effective ∧ process.ids.Dropped root := by
  have nobody := Credentials.dropped_iff.mp dropped
  unfold changeIds
  by_cases holds : process.ids.Holds root
  · rw [if_pos ⟨holds, nobody⟩]
    exact iff_of_false (Finset.notMem_empty _)
      fun kept => Credentials.dropped_iff.mp kept.2 holds
  · have before := Credentials.dropped_iff.mpr holds
    rw [if_neg fun gone => holds gone.1, if_neg fun lost => before.effective lost.1,
      if_neg fun raised => dropped.effective raised.2]
    exact (and_iff_left before).symm

end ChangeIds

/-- `setid` is the capability that lets a process take any id. -/
def perform (root : Id) (setid : Capability) (process : Privileges Id Capability) :
    PrivilegeCall Id Capability → Option (Privileges Id Capability)
  | .credentials call =>
      if setid ∈ process.effective ∨ call.Permitted process.ids then
        some (process.changeIds root (call.outcome (setid ∈ process.effective) process.ids))
      else none
  | .capset permitted effective =>
      if contained : permitted ⊆ process.permitted ∧ effective ⊆ permitted then
        some { process with permitted, effective, contained := contained.2 }
      else none

inductive Step (root : Id) (setid : Capability) :
    Privileges Id Capability → Privileges Id Capability → Prop where
  | succeeded {process next : Privileges Id Capability} {call : PrivilegeCall Id Capability} :
      process.perform root setid call = some next → Step root setid process next
  | failed {process : Privileges Id Capability} : Step root setid process process

variable {root : Id} {setid capability : Capability} {process next : Privileges Id Capability}

/-- No call gives a process a capability that it was not permitted. -/
theorem permitted_subset_of_perform {call : PrivilegeCall Id Capability}
    (performed : process.perform root setid call = some next) :
    next.permitted ⊆ process.permitted := by
  cases call with
  | credentials call =>
      rw [perform, Option.ite_none_right_eq_some] at performed
      obtain ⟨_, result⟩ := performed
      cases Option.some.inj result
      rw [permitted_changeIds]
      split
      · exact Finset.empty_subset _
      · exact Finset.Subset.refl _
  | capset permitted effective =>
      rw [perform, Option.dite_none_right_eq_some] at performed
      obtain ⟨contained, result⟩ := performed
      cases Option.some.inj result
      exact contained.1

theorem permitted_subset_of_run
    (run : Relation.ReflTransGen (Step root setid) process next) :
    next.permitted ⊆ process.permitted := by
  induction run with
  | refl => exact Finset.Subset.refl _
  | tail _ step ih =>
      cases step with
      | succeeded performed => exact (permitted_subset_of_perform performed).trans ih
      | failed => exact ih

/-- The calls that change user ids, on their own. -/
inductive IdStep (root : Id) (setid : Capability) :
    Privileges Id Capability → Privileges Id Capability → Prop where
  | succeeded {process next : Privileges Id Capability} {call : CredentialCall Id} :
      process.perform root setid (.credentials call) = some next → IdStep root setid process next
  | failed {process : Privileges Id Capability} : IdStep root setid process process

/-- No later sequence of calls makes the effective id the privileged one. -/
def Irrevocable (root : Id) (setid : Capability) (process : Privileges Id Capability) : Prop :=
  ∀ next, Relation.ReflTransGen (IdStep root setid) process next → next.ids.effective ≠ root

/-- What keeps a process from becoming the privileged user again. -/
structure Unprivileged (root : Id) (setid : Capability) (process : Privileges Id Capability) :
    Prop where
  ids : process.ids.Dropped root
  capability : setid ∉ process.effective

theorem Unprivileged.step (unprivileged : Unprivileged root setid process)
    (step : IdStep root setid process next) : Unprivileged root setid next := by
  cases step with
  | failed => exact unprivileged
  | succeeded performed =>
      rw [perform, Option.ite_none_right_eq_some] at performed
      obtain ⟨allowed, result⟩ := performed
      have permitted := allowed.resolve_left unprivileged.capability
      rw [decide_eq_false unprivileged.capability] at result
      cases Option.some.inj result
      have dropped := unprivileged.ids.outcome permitted
      refine ⟨?_, ?_⟩
      · rw [ids_changeIds]
        exact dropped
      · exact fun member => unprivileged.capability
          (effective_changeIds_subset _ _ dropped.effective member)

theorem Unprivileged.run (unprivileged : Unprivileged root setid process)
    (run : Relation.ReflTransGen (IdStep root setid) process next) :
    Unprivileged root setid next := by
  induction run with
  | refl => exact unprivileged
  | tail _ step ih => exact ih.step step

theorem idStep_seteuid {uid : Id} (allowed : setid ∈ process.effective ∨ process.ids.Holds uid) :
    IdStep root setid process (process.changeIds root { process.ids with effective := uid }) := by
  have performed : process.perform root setid (.credentials (.seteuid uid)) =
      some (process.changeIds root { process.ids with effective := uid }) := if_pos allowed
  exact .succeeded performed

/-- Dropping the privilege for good takes all three ids, not just the effective and the
saved one, and the capability to take any id. -/
theorem irrevocable_iff : Irrevocable root setid process ↔ Unprivileged root setid process := by
  constructor
  · intro irrevocable
    have refused : ¬ (setid ∈ process.effective ∨ process.ids.Holds root) := fun allowed =>
      irrevocable _ (.single (idStep_seteuid allowed)) (by rw [ids_changeIds])
    obtain ⟨capability, nobody⟩ := not_or.mp refused
    exact ⟨Credentials.dropped_iff.mpr nobody, capability⟩
  · intro unprivileged next run
    exact (unprivileged.run run).ids.effective

/-- Some later calls make the capability effective. -/
def CanRaise (root : Id) (setid : Capability) (process : Privileges Id Capability)
    (capability : Capability) : Prop :=
  ∃ next, Relation.ReflTransGen (Step root setid) process next ∧ capability ∈ next.effective

/-- A capability can be raised as long as it is permitted, whatever the ids are. -/
theorem canRaise_iff : process.CanRaise root setid capability ↔ capability ∈ process.permitted := by
  constructor
  · rintro ⟨next, run, member⟩
    exact permitted_subset_of_run run (next.contained member)
  · intro member
    have contained : process.permitted ⊆ process.permitted ∧
        process.permitted ⊆ process.permitted :=
      ⟨Finset.Subset.refl _, Finset.Subset.refl _⟩
    have raised : process.perform root setid (.capset process.permitted process.permitted) =
        some { process with effective := process.permitted, contained := contained.2 } :=
      dif_pos contained
    exact ⟨_, .single (.succeeded raised), member⟩

end Privileges

end NetworkServices
