import Mathlib.Logic.Basic

/-! The user ids of a process and the system calls that change them, over any
type of ids with one privileged id. -/

set_option autoImplicit false

namespace NetworkServices

structure Credentials (Id : Type) where
  real : Id
  effective : Id
  saved : Id
  deriving DecidableEq, Repr

/-- The calls that change user ids. `none` stands for the argument `-1`. -/
inductive CredentialCall (Id : Type) where
  | setuid (uid : Id)
  | seteuid (uid : Id)
  | setreuid (real effective : Option Id)
  | setresuid (real effective saved : Option Id)

namespace Credentials

variable {Id : Type}

def Holds (ids : Credentials Id) (uid : Id) : Prop :=
  uid = ids.real ∨ uid = ids.effective ∨ uid = ids.saved

structure Dropped (root : Id) (ids : Credentials Id) : Prop where
  real : ids.real ≠ root
  effective : ids.effective ≠ root
  saved : ids.saved ≠ root

theorem Dropped.of_holds {root uid : Id} {ids : Credentials Id} (dropped : Dropped root ids)
    (holds : ids.Holds uid) : uid ≠ root := by
  rcases holds with rfl | rfl | rfl
  · exact dropped.real
  · exact dropped.effective
  · exact dropped.saved

theorem dropped_iff {root : Id} {ids : Credentials Id} : Dropped root ids ↔ ¬ ids.Holds root := by
  constructor
  · intro dropped holds
    exact dropped.of_holds holds rfl
  · intro nobody
    refine ⟨fun same => nobody ?_, fun same => nobody ?_, fun same => nobody ?_⟩
    · exact .inl same.symm
    · exact .inr (.inl same.symm)
    · exact .inr (.inr same.symm)

private theorem Dropped.getD {root current : Id} {ids : Credentials Id}
    (dropped : Dropped root ids) (unprivileged : current ≠ root) {requested : Option Id}
    (permitted : ∀ uid ∈ requested, ids.Holds uid) : requested.getD current ≠ root := by
  cases requested with
  | none => exact unprivileged
  | some uid => exact dropped.of_holds (permitted uid rfl)

variable [DecidableEq Id]

instance (ids : Credentials Id) (uid : Id) : Decidable (ids.Holds uid) :=
  inferInstanceAs (Decidable (_ ∨ _ ∨ _))

/-- `setreuid` replaces the saved id when the real one is given, or when the new
effective one is not the old real one. -/
def reSaved (ids : Credentials Id) (real effective : Option Id) : Id :=
  if real.isSome ∨ ∃ uid ∈ effective, uid ≠ ids.real then effective.getD ids.effective
  else ids.saved

end Credentials

namespace CredentialCall

variable {Id : Type} [DecidableEq Id]

def Permitted (ids : Credentials Id) : CredentialCall Id → Prop
  | .setuid uid => uid = ids.real ∨ uid = ids.saved
  | .seteuid uid => ids.Holds uid
  | .setreuid real effective =>
      (∀ uid ∈ real, uid = ids.real ∨ uid = ids.effective) ∧ ∀ uid ∈ effective, ids.Holds uid
  | .setresuid real effective saved =>
      (∀ uid ∈ real, ids.Holds uid) ∧ (∀ uid ∈ effective, ids.Holds uid) ∧
        ∀ uid ∈ saved, ids.Holds uid

instance (ids : Credentials Id) : (call : CredentialCall Id) → Decidable (call.Permitted ids)
  | .setuid _ => inferInstanceAs (Decidable (_ ∨ _))
  | .seteuid uid => inferInstanceAs (Decidable (ids.Holds uid))
  | .setreuid _ _ => inferInstanceAs (Decidable (_ ∧ _))
  | .setresuid _ _ _ => inferInstanceAs (Decidable (_ ∧ _ ∧ _))

/-- The ids after a call that succeeds. Only `setuid` depends on the privilege:
with it the call gives up all three ids at once. -/
def outcome (privileged : Bool) (ids : Credentials Id) : CredentialCall Id → Credentials Id
  | .setuid uid => if privileged then ⟨uid, uid, uid⟩ else { ids with effective := uid }
  | .seteuid uid => { ids with effective := uid }
  | .setreuid real effective =>
      ⟨real.getD ids.real, effective.getD ids.effective, ids.reSaved real effective⟩
  | .setresuid real effective saved =>
      ⟨real.getD ids.real, effective.getD ids.effective, saved.getD ids.saved⟩

end CredentialCall

namespace Credentials

variable {Id : Type} [DecidableEq Id]

/-- Without the privilege a call only rearranges ids the process already holds. -/
theorem Dropped.outcome {root : Id} {ids : Credentials Id} {call : CredentialCall Id}
    (dropped : Dropped root ids) (permitted : call.Permitted ids) :
    Dropped root (call.outcome false ids) := by
  cases call with
  | setuid uid =>
      refine ⟨dropped.real, dropped.of_holds ?_, dropped.saved⟩
      rcases permitted with real | saved
      · exact .inl real
      · exact .inr (.inr saved)
  | seteuid uid => exact ⟨dropped.real, dropped.of_holds permitted, dropped.saved⟩
  | setreuid real effective =>
      obtain ⟨realPermitted, effectivePermitted⟩ := permitted
      have newEffective := dropped.getD dropped.effective effectivePermitted
      refine ⟨dropped.getD dropped.real fun uid member => ?_, newEffective, ?_⟩
      · rcases realPermitted uid member with real | effective
        · exact .inl real
        · exact .inr (.inl effective)
      · simp only [CredentialCall.outcome, reSaved]
        split
        · exact newEffective
        · exact dropped.saved
  | setresuid real effective saved =>
      obtain ⟨realPermitted, effectivePermitted, savedPermitted⟩ := permitted
      exact ⟨dropped.getD dropped.real realPermitted,
        dropped.getD dropped.effective effectivePermitted,
        dropped.getD dropped.saved savedPermitted⟩

end Credentials

end NetworkServices
