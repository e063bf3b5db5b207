import NetworkServices.Privileges.RootServer

/-! When the privileges `rootserver.c` gave up before `listen` are gone for good. -/

set_option autoImplicit false

namespace NetworkServices.RootServer

open Privileges

def Calls.Completed (calls : Calls) : Prop :=
  calls.socket = true ∧ calls.getresuid = true ∧ calls.bind = true ∧ calls.getresuidAfter = true

theorem serve_eq_listening_iff {port uid : Int32} {process final : Privileges UInt32 Int32}
    {calls : Calls} {sinPort : UInt16} :
    (serve port uid process calls).2 = .listening sinPort final ↔
      ¬ (port.toUInt32 < 1024 ∧ process.ids.effective ≠ 0) ∧ calls.Completed ∧
        final = afterSetuid process uid.toUInt32 calls.setuid ∧
        final.ids.effective ≠ 0 ∧ final.ids.saved ≠ 0 ∧ sinPort = port.toUInt32.toUInt16 := by
  simp only [serve, Calls.Completed]
  grind

/-- What `setuid(uid)` does: nothing, where it fails or is not permitted; or it sets all
three ids, or the effective one alone. -/
inductive Sets (process : Privileges UInt32 Int32) (uid : UInt32) (succeeds : Bool) :
    Privileges UInt32 Int32 → Prop where
  | unchanged :
      (succeeds = true → capSetuid ∉ process.effective ∧ uid ≠ process.ids.real ∧
        uid ≠ process.ids.saved) →
      Sets process uid succeeds process
  | all : succeeds = true → capSetuid ∈ process.effective →
      Sets process uid succeeds (process.changeIds 0 ⟨uid, uid, uid⟩)
  | effective : succeeds = true → capSetuid ∉ process.effective →
      uid = process.ids.real ∨ uid = process.ids.saved →
      Sets process uid succeeds (process.changeIds 0 { process.ids with effective := uid })

theorem afterSetuid_sets (process : Privileges UInt32 Int32) (uid : UInt32) (succeeds : Bool) :
    Sets process uid succeeds (afterSetuid process uid succeeds) := by
  cases succeeds with
  | false => exact .unchanged fun failed => by cases failed
  | true =>
      rw [afterSetuid, if_pos rfl, perform]
      by_cases capable : capSetuid ∈ process.effective
      · rw [if_pos (.inl capable), decide_eq_true capable]
        exact .all rfl capable
      · rw [decide_eq_false capable]
        by_cases permitted : (CredentialCall.setuid uid).Permitted process.ids
        · rw [if_pos (.inr permitted)]
          exact .effective rfl capable permitted
        · rw [if_neg (not_or.mpr ⟨capable, permitted⟩)]
          exact .unchanged fun _ => ⟨capable, not_or.mp permitted⟩

/-- The starts from which `main` listens and can become root again, if every call but
`setuid` succeeds. -/
inductive Regains (port uid : Int32) (process : Privileges UInt32 Int32) (succeeds : Bool) :
    Prop where
  /-- `setuid` has changed nothing, and the real id or the capability is left. -/
  | unchanged :
      ¬ port.toUInt32 < 1024 → process.ids.effective ≠ 0 → process.ids.saved ≠ 0 →
      process.ids.real = 0 ∨ capSetuid ∈ process.effective →
      (succeeds = true → capSetuid ∉ process.effective ∧ uid.toUInt32 ≠ process.ids.real ∧
        uid.toUInt32 ≠ process.ids.saved) →
      Regains port uid process succeeds
  /-- There is no id of root to give up, so the capability is left. -/
  | capable :
      succeeds = true → ¬ port.toUInt32 < 1024 → capSetuid ∈ process.effective →
      process.ids.Dropped 0 → uid.toUInt32 ≠ 0 → Regains port uid process succeeds
  /-- Without the capability the real id stays. -/
  | real :
      succeeds = true → (port.toUInt32 < 1024 → process.ids.effective = 0) →
      capSetuid ∉ process.effective → process.ids.real = 0 →
      uid.toUInt32 = process.ids.saved → process.ids.saved ≠ 0 → Regains port uid process succeeds

section Serve

variable {port uid : Int32} {process final : Privileges UInt32 Int32} {calls : Calls}

/-- What the test in front of `listen` does not look at. -/
theorem unprivileged_iff (effective : final.ids.effective ≠ 0) (saved : final.ids.saved ≠ 0) :
    Unprivileged 0 capSetuid final ↔ ¬ (final.ids.real = 0 ∨ capSetuid ∈ final.effective) := by
  rw [not_or]
  constructor
  · intro unprivileged
    exact ⟨unprivileged.ids.real, unprivileged.capability⟩
  · intro neither
    exact ⟨⟨neither.1, effective, saved⟩, neither.2⟩

theorem regains_of_listening {sinPort : UInt16}
    (listening : (serve port uid process calls).2 = .listening sinPort final)
    (kept : final.ids.real = 0 ∨ capSetuid ∈ final.effective) :
    Regains port uid process calls.setuid := by
  obtain ⟨allowed, -, same, effective, saved, -⟩ := serve_eq_listening_iff.mp listening
  have sets := afterSetuid_sets process uid.toUInt32 calls.setuid
  rw [← same] at sets
  clear same listening
  cases sets with
  | unchanged refused =>
      exact .unchanged (fun low => allowed ⟨low, effective⟩) effective saved kept refused
  | all succeeds capable =>
      rw [ids_changeIds] at effective kept
      have left := kept.resolve_left effective
      have dropped := ((mem_effective_changeIds_iff _ _ ⟨effective, effective, effective⟩).mp left).2
      exact .capable succeeds (fun low => allowed ⟨low, dropped.effective⟩) capable dropped effective
  | effective succeeds incapable permitted =>
      rw [ids_changeIds] at effective saved kept
      have real := kept.resolve_right fun member =>
        incapable (effective_changeIds_subset _ _ effective member)
      have same := permitted.resolve_left fun same => effective (same.trans real)
      refine .real succeeds (fun low => ?_) incapable real same saved
      by_contra other
      exact allowed ⟨low, other⟩

theorem Regains.listening (regains : Regains port uid process calls.setuid)
    (completed : calls.Completed) :
    ∃ final, (serve port uid process calls).2 = .listening port.toUInt32.toUInt16 final ∧
      ¬ Unprivileged 0 capSetuid final := by
  have sets := afterSetuid_sets process uid.toUInt32 calls.setuid
  refine ⟨afterSetuid process uid.toUInt32 calls.setuid, ?_⟩
  rw [serve_eq_listening_iff]
  generalize afterSetuid process uid.toUInt32 calls.setuid = final at sets
  suffices holds : ¬ (port.toUInt32 < 1024 ∧ process.ids.effective ≠ 0) ∧
      final.ids.effective ≠ 0 ∧ final.ids.saved ≠ 0 ∧
      (final.ids.real = 0 ∨ capSetuid ∈ final.effective) by
    obtain ⟨allowed, effective, saved, kept⟩ := holds
    refine ⟨⟨allowed, completed, rfl, effective, saved, rfl⟩, ?_⟩
    rw [unprivileged_iff effective saved]
    exact not_not.mpr kept
  cases regains with
  | unchanged high effective saved kept refused =>
      have same : final = process := by
        cases sets with
        | unchanged => rfl
        | all succeeds capable => exact absurd capable (refused succeeds).1
        | effective succeeds incapable permitted =>
            obtain ⟨-, other, another⟩ := refused succeeds
            exact absurd permitted (not_or.mpr ⟨other, another⟩)
      rw [same]
      exact ⟨fun guarded => high guarded.1, effective, saved, kept⟩
  | capable succeeds high capable dropped nonzero =>
      cases sets with
      | unchanged refused => exact absurd capable (refused succeeds).1
      | effective _ incapable => exact absurd capable incapable
      | all =>
          have other : Credentials.Dropped 0
              (⟨uid.toUInt32, uid.toUInt32, uid.toUInt32⟩ : Credentials UInt32) :=
            ⟨nonzero, nonzero, nonzero⟩
          have left := (mem_effective_changeIds_iff 0 process other).mpr ⟨capable, dropped⟩
          rw [ids_changeIds]
          exact ⟨fun guarded => high guarded.1, nonzero, nonzero, .inr left⟩
  | real succeeds guard incapable real same saved =>
      cases sets with
      | unchanged refused => exact absurd same (refused succeeds).2.2
      | all _ capable => exact absurd capable incapable
      | effective =>
          rw [ids_changeIds]
          exact ⟨fun guarded => guarded.2 (guard guarded.1), same ▸ saved, saved, .inl real⟩

end Serve

/-- Once `main` listens, its privileges are gone for good, except from the starts that
leave it the real id of root or the capability to take any id. -/
theorem main_irrevocable_iff (argv : List CString) (process : Privileges UInt32 Int32)
    (calls : Calls) :
    (∀ sinPort final, (main argv process calls).2 = .listening sinPort final →
      Irrevocable 0 capSetuid final) ↔
      ¬ ∃ program port uid, argv = [program, port, uid] ∧ calls.Completed ∧
        Regains (atoi port) (atoi uid) process calls.setuid := by
  constructor
  · intro irrevocable keeps
    obtain ⟨program, port, uid, rfl, completed, regains⟩ := keeps
    obtain ⟨final, listening, privileged⟩ := regains.listening completed
    exact privileged (irrevocable_iff.mp (irrevocable _ _ listening))
  · intro loses sinPort final listening
    rw [irrevocable_iff]
    match argv, listening with
    | [program, port, uid], listening =>
        obtain ⟨-, completed, -, effective, saved, -⟩ := serve_eq_listening_iff.mp listening
        rw [unprivileged_iff effective saved]
        exact fun kept =>
          loses ⟨program, port, uid, rfl, completed, regains_of_listening listening kept⟩

/-- Root runs a program that is set-user-ID to user 1000, without any capability. -/
theorem main_listens_with_real_root :
    (main [ascii "./rootserver", ascii "8080", ascii "1000"]
        ⟨⟨0, 1000, 1000⟩, ∅, ∅, Finset.Subset.refl _⟩ ⟨true, true, true, true, true⟩).2 =
      .listening 8080 ⟨⟨0, 1000, 1000⟩, ∅, ∅, Finset.Subset.refl _⟩ ∧
      ¬ Irrevocable 0 capSetuid
        (⟨⟨0, 1000, 1000⟩, ∅, ∅, Finset.Subset.refl _⟩ : Privileges UInt32 Int32) := by
  refine ⟨by decide, fun irrevocable => ?_⟩
  exact (irrevocable_iff.mp irrevocable).ids.real rfl

end NetworkServices.RootServer
