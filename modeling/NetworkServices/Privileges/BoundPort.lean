import NetworkServices.Privileges.CapServerProperties
import NetworkServices.Privileges.RootServerProperties

/-! Which port the two servers look at when they decide on a privilege. The test is one of the
32-bit `port_number`, and what is bound are its low 16 bits. -/

set_option autoImplicit false

namespace NetworkServices

/-- The number that an argument denotes is a well-known port, or it is not one modulo 65536
either. -/
def PortKept (port : Int) : Prop :=
  0 ≤ port ∧ port < 1024 ∨ 1024 ≤ port % 65536

instance (port : Int) : Decidable (PortKept port) :=
  inferInstanceAs (Decidable (_ ∨ _))

theorem portKept_iff (port : Int32) :
    PortKept port.toInt ↔ port.toUInt32 < 1024 ∨ ¬ port.toUInt32.toUInt16 < 1024 := by
  have bound := port.toUInt32.toNat_lt
  have signed : port.toInt = if 2 * port.toUInt32.toNat < 2 ^ 32 then (port.toUInt32.toNat : Int)
      else port.toUInt32.toNat - 2 ^ 32 := BitVec.toInt_eq_toNat_cond port.toBitVec
  rw [PortKept, signed, UInt32.lt_iff_toNat_lt, UInt16.lt_iff_toNat_lt, UInt32.toNat_toUInt16]
  simp only [UInt32.reduceToNat, UInt16.reduceToNat]
  split <;> omega

theorem toUInt16_lt_of_lt {port : UInt32} (wellKnown : port < 1024) : port.toUInt16 < 1024 := by
  rw [UInt32.lt_iff_toNat_lt] at wellKnown
  rw [UInt16.lt_iff_toNat_lt, UInt32.toNat_toUInt16]
  simp only [UInt32.reduceToNat, UInt16.reduceToNat] at *
  omega

/-!
## The server of root
-/

namespace RootServer

/-- Root is demanded in front of `bind` when the port is a well-known one, and only then. -/
def BindGuarded (before : List Event) : Event → Prop
  | .bind sinPort => .geteuid 0 ∈ before ↔ sinPort < 1024
  | _ => True

/-- The events of a run are a part of those of one that makes both calls. -/
theorem serve_part (port uid : Int32) (process : Privileges UInt32 Int32) (calls : Calls) :
    (serve port uid process calls).1 =
        (if port.toUInt32 < 1024 then [.geteuid process.ids.effective] else []) ∨
      ¬ (port.toUInt32 < 1024 ∧ process.ids.effective ≠ 0) ∧
        (serve port uid process calls).1 =
          (if port.toUInt32 < 1024 then [.geteuid process.ids.effective] else []) ++
            [.bind port.toUInt32.toUInt16] := by
  simp only [serve]
  grind

theorem bindGuarded_iff (port : Int32) :
    (∀ uid process calls, Follows BindGuarded (serve port uid process calls).1) ↔
      PortKept port.toInt := by
  rw [portKept_iff]
  constructor
  · intro guarded
    by_contra lost
    obtain ⟨large, low⟩ := not_or.mp lost
    have run := guarded 1000 ⟨⟨0, 0, 0⟩, ∅, ∅, Finset.Subset.refl _⟩ ⟨true, true, true, true, true⟩
    have called : (serve port 1000 ⟨⟨0, 0, 0⟩, ∅, ∅, Finset.Subset.refl _⟩
        ⟨true, true, true, true, true⟩).1 = [.bind port.toUInt32.toUInt16] := by
      simp only [serve, if_neg large]
      grind
    have law := run [] _ [] called
    exact absurd (law.mpr (not_not.mp low)) List.not_mem_nil
  · intro kept uid process calls
    by_cases wellKnown : port.toUInt32 < 1024
    · have low := toUInt16_lt_of_lt wellKnown
      have part := serve_part port uid process calls
      simp only [if_pos wellKnown] at part
      rcases part with asked | ⟨root, bound⟩
      · rw [asked]
        exact follows_cons_iff.mpr ⟨trivial, follows_nil⟩
      · have zero : process.ids.effective = 0 := not_not.mp fun other => root ⟨wellKnown, other⟩
        rw [bound, zero]
        refine follows_cons_iff.mpr ⟨trivial, follows_cons_iff.mpr ⟨?_, follows_nil⟩⟩
        exact iff_of_true List.mem_cons_self low
    · have high := kept.resolve_left wellKnown
      have part := serve_part port uid process calls
      simp only [if_neg wellKnown] at part
      rcases part with asked | ⟨_, bound⟩
      · rw [asked]
        exact follows_nil
      · rw [bound]
        exact follows_cons_iff.mpr ⟨iff_of_false List.not_mem_nil high, follows_nil⟩

end RootServer

/-!
## The server with a capability
-/

namespace CapServer

def Raises (before : List Event) : Prop :=
  ∃ sets, .setProc sets ∈ before ∧ capNetBindService ∈ sets.effective

/-- The capability is raised in front of `bind` when the port is a well-known one, and only
then. -/
def BindGuarded (before : List Event) : Event → Prop
  | .bound sinPort => Raises before ↔ sinPort < 1024
  | _ => True

theorem not_raises_returned (caps : List UInt64) : ¬ Raises (caps.map .returned) := by
  intro raises
  obtain ⟨sets, member, -⟩ := raises
  obtain ⟨cap, -, same⟩ := List.mem_map.mp member
  cases same

theorem bindGuarded_returned (caps : List UInt64) : Follows BindGuarded (caps.map .returned) := by
  apply follows_of_forall
  intro event member before
  obtain ⟨cap, -, rfl⟩ := List.mem_map.mp member
  trivial

theorem bindGuarded_bindAndDrop {front : List Event} (guarded : Follows BindGuarded front)
    {portNumber : UInt32} (bind : Raises front ↔ portNumber.toUInt16 < 1024) (calls : Calls)
    (privilegeOn : Handle) :
    Follows BindGuarded
      (front ++ (bindAndDrop portNumber calls ⟨calls.capInit, .empty⟩ privilegeOn).1) := by
  have whole : Follows BindGuarded
      (front ++ drop portNumber.toUInt16 privilegeOn.address calls.capInit) := by
    rw [follows_append_iff]
    refine ⟨guarded, ?_⟩
    simp only [drop, follows_cons_iff, follows_nil, and_true]
    exact ⟨by rwa [BindGuarded, List.append_nil], trivial, trivial, trivial, trivial⟩
  exact whole.front
    ((List.prefix_append_right_inj _).mpr (bindAndDrop_part calls portNumber privilegeOn))

theorem bindGuarded_of_wellKnown {port : Int32} (wellKnown : port.toUInt32 < 1024)
    (calls : Calls) (privilegeOn : Handle) :
    Follows BindGuarded (serve port calls privilegeOn).1 := by
  simp only [serve, created_eq_copies, if_pos wellKnown]
  rcases raise_cases calls ⟨calls.capDupOff, .empty⟩ with refused | refused | raised
  · obtain ⟨message, raised⟩ := refused
    rw [raised]
    dsimp only
    rw [List.append_nil]
    exact bindGuarded_returned calls.copies
  · obtain ⟨message, raised⟩ := refused
    rw [raised]
    exact (bindGuarded_returned calls.copies).append trivial
  · obtain ⟨-, on, raised, value⟩ := raised
    have effective : capNetBindService ∈ on.sets.effective := by
      rw [value]
      exact Finset.mem_insert_self _ _
    have member : Event.setProc on.sets ∈
        calls.copies.map Event.returned ++ [.returned calls.capDupOn, .setProc on.sets] := by
      simp
    have front : Follows BindGuarded
        (calls.copies.map Event.returned ++ [.returned calls.capDupOn, .setProc on.sets]) := by
      rw [follows_append_iff, follows_cons_iff, follows_cons_iff]
      exact ⟨bindGuarded_returned calls.copies, trivial, trivial, follows_nil⟩
    rw [raised]
    exact bindGuarded_bindAndDrop front
      (iff_of_true ⟨on.sets, member, effective⟩ (toUInt16_lt_of_lt wellKnown)) calls on

theorem bindGuarded_iff (port : Int32) :
    (∀ calls privilegeOn, Follows BindGuarded (serve port calls privilegeOn).1) ↔
      PortKept port.toInt := by
  rw [portKept_iff]
  constructor
  · intro guarded
    by_contra lost
    obtain ⟨large, low⟩ := not_or.mp lost
    have reach : successfulCalls.ReachFree := ⟨rfl, rfl, rfl, by decide, rfl⟩
    obtain ⟨rest, events, -⟩ := bindAndDrop_of_reachFree reach port.toUInt32 ⟨0, .empty⟩
    have run := guarded successfulCalls ⟨0, .empty⟩
    simp only [serve, created_eq_copies, if_neg large] at run
    rw [events] at run
    exact not_raises_returned _ ((run _ (.bound port.toUInt32.toUInt16) _ rfl).mpr (not_not.mp low))
  · intro kept calls privilegeOn
    by_cases wellKnown : port.toUInt32 < 1024
    · exact bindGuarded_of_wellKnown wellKnown calls privilegeOn
    · simp only [serve, created_eq_copies, if_neg wellKnown]
      exact bindGuarded_bindAndDrop (bindGuarded_returned calls.copies)
        (iff_of_false (not_raises_returned calls.copies) (kept.resolve_left wellKnown)) calls
        privilegeOn

end CapServer

/-!
## The argument of either
-/

/-- Both servers decide by the port that they bind. -/
structure DecidesByBoundPort (port : CString) : Prop where
  root : ∀ program uid process calls,
    Follows RootServer.BindGuarded (RootServer.main [program, port, uid] process calls).1
  capability : ∀ program calls privilegeOn,
    Follows CapServer.BindGuarded (CapServer.main [program, port] calls privilegeOn).1

theorem decidesByBoundPort_iff (port : CString) :
    DecidesByBoundPort port ↔ PortKept (atoi port).toInt := by
  constructor
  · intro decides
    exact (CapServer.bindGuarded_iff (atoi port)).mp (decides.capability [])
  · intro kept
    refine ⟨fun _ uid => ?_, fun _ => (CapServer.bindGuarded_iff (atoi port)).mpr kept⟩
    exact (RootServer.bindGuarded_iff (atoi port)).mpr kept (atoi uid)

/-- The argument 65616 is not a well-known port, and port 80 is bound. -/
theorem large_argument_binds_wellKnown_port :
    (RootServer.main [ascii "rootserver", ascii "65616", ascii "1000"]
        ⟨⟨1000, 1000, 1000⟩, ∅, ∅, Finset.Subset.refl _⟩ ⟨true, true, true, true, true⟩).1 =
          [.bind 80] ∧
      .bound 80 ∈ (CapServer.main [ascii "capserver", ascii "65616"] CapServer.successfulCalls
        ⟨0, .empty⟩).1 ∧
      ¬ DecidesByBoundPort (ascii "65616") := by
  refine ⟨by decide, by decide, fun decides => ?_⟩
  have kept := (CapServer.bindGuarded_iff (atoi (ascii "65616"))).mp (decides.capability [])
  revert kept
  decide

end NetworkServices
