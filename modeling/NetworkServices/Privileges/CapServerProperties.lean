import NetworkServices.Privileges.CapServer
import NetworkServices.Foundation.History
import NetworkServices.Foundation.Lifetime

/-! What a run of `capserver.c` does with its capability objects and with the capability sets
of its thread, from whatever sets it was started with. -/

set_option autoImplicit false

namespace NetworkServices.CapServer

/-!
## The law of a run
-/

def Event.lifetime : Event → Option (Lifetime UInt64)
  | .returned cap => some (.acquired cap)
  | .freed cap => some (.released cap)
  | _ => none

/-- The sets of the thread after some events. -/
def threadSets (initial : CapabilitySets) : List Event → CapabilitySets
  | [] => initial
  | .setProc sets :: later => threadSets sets later
  | _ :: later => threadSets initial later

def CapabilitySets.Emptied (sets : CapabilitySets) : Prop :=
  sets.permitted = ∅ ∧ sets.effective = ∅

def CapabilitySets.OnlyNetBind (sets : CapabilitySets) : Prop :=
  sets.permitted ⊆ {capNetBindService} ∧ sets.effective ⊆ {capNetBindService}

/-- What is freed is an object that `cap_init` or `cap_dup` returned and nothing has freed. -/
def OwnedFrees (before : List Event) : Event → Prop
  | .freed cap => cap ∈ held (before.filterMap Event.lifetime)
  | _ => True

/-- The sets never get another capability, and they have been emptied after `bind` when
`listen` is called. -/
def DroppedSets (initial : CapabilitySets) (before : List Event) : Event → Prop
  | .setProc sets => sets.OnlyNetBind
  | .listen =>
      (threadSets initial before).Emptied ∧
        ∃ early sinPort late sets, before = early ++ .bound sinPort :: late ∧
          .setProc sets ∈ late ∧ sets.Emptied
  | _ => True

def Lawful (initial : CapabilitySets) (before : List Event) (event : Event) : Prop :=
  OwnedFrees before event ∧ DroppedSets initial before event

theorem emptied_empty : CapabilitySets.empty.Emptied := ⟨rfl, rfl⟩

theorem onlyNetBind_empty : CapabilitySets.empty.OnlyNetBind :=
  ⟨Finset.empty_subset _, Finset.empty_subset _⟩

theorem raised_onlyNetBind (cap : UInt64) :
    (((⟨cap, .empty⟩ : Handle).setPermitted capNetBindService).setEffective
      capNetBindService).sets.OnlyNetBind :=
  ⟨Finset.insert_subset (Finset.mem_singleton_self _) (Finset.empty_subset _),
    Finset.insert_subset (Finset.mem_singleton_self _) (Finset.empty_subset _)⟩

theorem threadSets_append (initial : CapabilitySets) (front back : List Event) :
    threadSets initial (front ++ back) = threadSets (threadSets initial front) back := by
  fun_induction threadSets initial front with
  | case1 => rfl
  | case2 initial sets later ih => exact ih
  | case3 initial event later notSets ih =>
      cases event with
      | setProc sets => exact absurd rfl (notSets sets)
      | returned cap => exact ih
      | bound sinPort => exact ih
      | freed cap => exact ih
      | listen => exact ih

/-!
## The parts of a run
-/

/-- The objects the first two calls return. -/
def Calls.copies (calls : Calls) : List UInt64 :=
  (if calls.capInit = 0 then [] else [calls.capInit]) ++
    if calls.capDupOff = 0 then [] else [calls.capDupOff]

theorem lifetimes_returned (caps : List UInt64) :
    (caps.map Event.returned).filterMap Event.lifetime = caps.map .acquired := by
  rw [List.filterMap_map]
  exact congrFun List.filterMap_eq_map caps

theorem returned_ownedFrees (caps : List UInt64) :
    Follows OwnedFrees (caps.map Event.returned) := by
  apply follows_of_forall
  intro event member before
  obtain ⟨cap, -, rfl⟩ := List.mem_map.mp member
  trivial

theorem returned_droppedSets (initial : CapabilitySets) (caps : List UInt64) :
    Follows (DroppedSets initial) (caps.map Event.returned) := by
  apply follows_of_forall
  intro event member before
  obtain ⟨cap, -, rfl⟩ := List.mem_map.mp member
  trivial

theorem created_eq_copies (calls : Calls) (sets sets' : CapabilitySets) :
    created ⟨calls.capInit, sets⟩ ++ created ⟨calls.capDupOff, sets'⟩ =
      calls.copies.map .returned := by
  unfold created Calls.copies
  split
  · split
    · rfl
    · rfl
  · split
    · rfl
    · rfl

theorem mem_copies_iff (calls : Calls) (cap : UInt64) :
    cap ∈ calls.copies ↔ cap ≠ 0 ∧ (cap = calls.capInit ∨ cap = calls.capDupOff) := by
  unfold Calls.copies
  grind

theorem raise_cases (calls : Calls) (privilegeOff : Handle) :
    (∃ message, raise calls privilegeOff = ([], .error message)) ∨
      (∃ message, raise calls privilegeOff = ([.returned calls.capDupOn], .error message)) ∨
      calls.capDupOn ≠ 0 ∧ ∃ privilegeOn,
        raise calls privilegeOff =
          ([.returned calls.capDupOn, .setProc privilegeOn.sets], .ok privilegeOn) ∧
        privilegeOn = ((⟨calls.capDupOn, privilegeOff.sets⟩ : Handle).setPermitted
          capNetBindService).setEffective capNetBindService := by
  unfold raise
  split
  · exact .inl ⟨_, rfl⟩
  · dsimp only
    by_cases null : calls.capDupOn = 0
    · simp [created, null]
    · split
      · simp [created, null]
      · split
        · simp [created, Handle.setEffective, null]
        · refine .inr (.inr ⟨null, _, ?_, rfl⟩)
          simp [created, Handle.setEffective, Handle.setPermitted, null]

/-- All calls on the way to the first `cap_free` succeed. -/
structure Calls.ReachFree (calls : Calls) : Prop where
  socket : calls.socket = true
  getresuid : calls.getresuid.isSome = true
  bind : calls.bind = true
  capInit : calls.capInit ≠ 0
  capSetProcClear : calls.capSetProcClear = true

theorem bindAndDrop_of_reachFree {calls : Calls} (reach : calls.ReachFree) (portNumber : UInt32)
    (privilegeOn : Handle) :
    ∃ rest, (bindAndDrop portNumber calls ⟨calls.capInit, .empty⟩ privilegeOn).1 =
        [.bound portNumber.toUInt16, .setProc .empty, .freed privilegeOn.address] ++ rest ∧
      rest <+: [.freed calls.capInit, .listen] := by
  obtain ⟨ids, answered⟩ := Option.isSome_iff_exists.mp reach.getresuid
  simp only [bindAndDrop, reach.socket, answered, reach.bind, reach.capInit,
    reach.capSetProcClear, Bool.true_eq_false, or_self, if_false]
  split
  · exact ⟨[], rfl, List.nil_prefix⟩
  · split
    · exact ⟨[.freed calls.capInit], rfl, [.listen], rfl⟩
    · split
      · exact ⟨[.freed calls.capInit], rfl, [.listen], rfl⟩
      · split
        · exact ⟨[.freed calls.capInit, .listen], rfl, List.prefix_rfl⟩
        · exact ⟨[.freed calls.capInit, .listen], rfl, List.prefix_rfl⟩

theorem bindAndDrop_of_not_reachFree {calls : Calls} (short : ¬ calls.ReachFree)
    (portNumber : UInt32) (privilegeOn : Handle) :
    (bindAndDrop portNumber calls ⟨calls.capInit, .empty⟩ privilegeOn).1 <+:
      [.bound portNumber.toUInt16] := by
  by_cases noSocket : calls.socket = false
  · rw [bindAndDrop, if_pos noSocket]
    exact List.nil_prefix
  · cases answered : calls.getresuid with
    | none =>
        rw [bindAndDrop, if_neg noSocket, answered]
        exact List.nil_prefix
    | some ids =>
        rw [bindAndDrop, if_neg noSocket, answered]
        dsimp only
        split
        · exact List.nil_prefix
        · rename_i notBound
          have kept : calls.capInit = 0 ∨ calls.capSetProcClear = false := by
            by_contra dropped
            obtain ⟨nonnull, emptied⟩ := not_or.mp dropped
            exact short ⟨by simpa using noSocket, by rw [answered]; rfl, by simpa using notBound,
              nonnull, by simpa using emptied⟩
          rw [if_pos kept]

/-- The events from `bind` to `listen`. -/
def drop (sinPort : UInt16) (privilegeOn privilegeClear : UInt64) : List Event :=
  [.bound sinPort, .setProc .empty, .freed privilegeOn, .freed privilegeClear, .listen]

theorem bindAndDrop_part (calls : Calls) (portNumber : UInt32) (privilegeOn : Handle) :
    (bindAndDrop portNumber calls ⟨calls.capInit, .empty⟩ privilegeOn).1 <+:
      drop portNumber.toUInt16 privilegeOn.address calls.capInit := by
  by_cases reach : calls.ReachFree
  · obtain ⟨rest, events, part⟩ := bindAndDrop_of_reachFree reach portNumber privilegeOn
    rw [events]
    exact (List.prefix_append_right_inj _).mpr part
  · exact (bindAndDrop_of_not_reachFree reach portNumber privilegeOn).trans ⟨_, rfl⟩

theorem drop_ownedFrees {front : List Event} {privilegeOn privilegeClear : UInt64}
    (owned : Follows OwnedFrees front)
    (onHeld : privilegeOn ∈ held (front.filterMap Event.lifetime))
    (clearHeld : privilegeClear ∈ held (front.filterMap Event.lifetime))
    (distinct : privilegeClear ≠ privilegeOn) (sinPort : UInt16) :
    Follows OwnedFrees (front ++ drop sinPort privilegeOn privilegeClear) := by
  rw [follows_append_iff]
  refine ⟨owned, ?_⟩
  simp only [drop, follows_cons_iff, follows_nil, and_true]
  have untouched : [Event.bound sinPort, .setProc .empty].filterMap Event.lifetime = [] := rfl
  have firstFreed : [Event.bound sinPort, .setProc .empty, .freed privilegeOn].filterMap
      Event.lifetime = [.released privilegeOn] := rfl
  refine ⟨trivial, trivial, ?_, ?_, trivial⟩
  · rwa [OwnedFrees, List.filterMap_append, untouched, List.append_nil]
  · rw [OwnedFrees, List.filterMap_append, firstFreed, held_append_released, List.mem_filter]
    exact ⟨clearHeld, bne_iff_ne.mpr distinct⟩

theorem drop_droppedSets {initial : CapabilitySets} {front : List Event}
    (dropped : Follows (DroppedSets initial) front) (sinPort : UInt16)
    (privilegeOn privilegeClear : UInt64) :
    Follows (DroppedSets initial) (front ++ drop sinPort privilegeOn privilegeClear) := by
  rw [follows_append_iff]
  refine ⟨dropped, ?_⟩
  simp only [drop, follows_cons_iff, follows_nil, and_true]
  refine ⟨trivial, onlyNetBind_empty, trivial, trivial, ?_, ?_⟩
  · rw [threadSets_append]
    exact emptied_empty
  · exact ⟨front, sinPort, [.setProc .empty, .freed privilegeOn, .freed privilegeClear], .empty,
      rfl, List.mem_cons_self, emptied_empty⟩

/-- What is left of a run that stops before the first `cap_free` frees nothing. -/
theorem bindAndDrop_ownedFrees {front : List Event} {calls : Calls} (short : ¬ calls.ReachFree)
    (owned : Follows OwnedFrees front) (portNumber : UInt32) (privilegeOn : Handle) :
    Follows OwnedFrees
      (front ++ (bindAndDrop portNumber calls ⟨calls.capInit, .empty⟩ privilegeOn).1) := by
  have bound := owned.append (show OwnedFrees front (.bound portNumber.toUInt16) from trivial)
  exact bound.front ((List.prefix_append_right_inj _).mpr
    (bindAndDrop_of_not_reachFree short portNumber privilegeOn))

/-!
## Whole runs
-/

/-- The events of a run: it ends while it raises the capability, or it comes to `bindAndDrop`
with or without having raised it. -/
inductive Course (port : Int32) (calls : Calls) (privilegeOn : Handle) : List Event → Prop where
  | ended {caps : List UInt64} (wellKnown : port.toUInt32 < 1024) :
      Course port calls privilegeOn (caps.map .returned)
  | raised {on : Handle} {sets : CapabilitySets} (wellKnown : port.toUInt32 < 1024)
      (nonnull : calls.capDupOn ≠ 0) (address : on.address = calls.capDupOn)
      (onlyNetBind : sets.OnlyNetBind) :
      Course port calls privilegeOn
        ((calls.copies ++ [calls.capDupOn]).map .returned ++ [.setProc sets] ++
          (bindAndDrop port.toUInt32 calls ⟨calls.capInit, .empty⟩ on).1)
  | kept (unprivileged : ¬ port.toUInt32 < 1024) :
      Course port calls privilegeOn (calls.copies.map .returned ++
        (bindAndDrop port.toUInt32 calls ⟨calls.capInit, .empty⟩ privilegeOn).1)

theorem serve_course (port : Int32) (calls : Calls) (privilegeOn : Handle) :
    Course port calls privilegeOn (serve port calls privilegeOn).1 := by
  simp only [serve, created_eq_copies]
  by_cases wellKnown : port.toUInt32 < 1024
  · rw [if_pos wellKnown]
    rcases raise_cases calls ⟨calls.capDupOff, .empty⟩ with refused | refused | raised
    · obtain ⟨message, raised⟩ := refused
      rw [raised]
      dsimp only
      rw [List.append_nil]
      exact .ended wellKnown
    · obtain ⟨message, raised⟩ := refused
      have events : calls.copies.map Event.returned ++ [.returned calls.capDupOn] =
          (calls.copies ++ [calls.capDupOn]).map .returned := by simp
      rw [raised]
      dsimp only
      rw [events]
      exact .ended wellKnown
    · obtain ⟨nonnull, on, raised, value⟩ := raised
      have events : calls.copies.map Event.returned ++
            [.returned calls.capDupOn, .setProc on.sets] =
          (calls.copies ++ [calls.capDupOn]).map .returned ++ [.setProc on.sets] := by simp
      rw [raised]
      dsimp only
      rw [events]
      refine .raised wellKnown nonnull (by rw [value]; rfl) ?_
      rw [value]
      exact raised_onlyNetBind calls.capDupOn
  · rw [if_neg wellKnown]
    exact .kept wellKnown

section Course

variable {port : Int32} {calls : Calls} {privilegeOn : Handle} {events : List Event}
  (course : Course port calls privilegeOn events)

include course

/-- The sets are dropped on every path, also on those that free what they do not own. -/
theorem Course.droppedSets (initial : CapabilitySets) : Follows (DroppedSets initial) events := by
  cases course with
  | ended wellKnown => exact returned_droppedSets initial _
  | @raised on sets wellKnown nonnull address onlyNetBind =>
      have front := (returned_droppedSets initial (calls.copies ++ [calls.capDupOn])).append
        (show DroppedSets initial _ (.setProc sets) from onlyNetBind)
      exact (drop_droppedSets front _ on.address calls.capInit).front
        ((List.prefix_append_right_inj _).mpr (bindAndDrop_part calls port.toUInt32 on))
  | kept unprivileged =>
      have front := returned_droppedSets initial calls.copies
      exact (drop_droppedSets front _ privilegeOn.address calls.capInit).front
        ((List.prefix_append_right_inj _).mpr (bindAndDrop_part calls port.toUInt32 privilegeOn))

/-- A run that stops before the first `cap_free` frees nothing, and on a well-known port both
objects that are freed are still held. -/
theorem Course.ownedFrees (condition : port.toUInt32 < 1024 ∨ ¬ calls.ReachFree) :
    Follows OwnedFrees events := by
  cases course with
  | ended wellKnown => exact returned_ownedFrees _
  | @raised on sets wellKnown nonnull address onlyNetBind =>
      have front := (returned_ownedFrees (calls.copies ++ [calls.capDupOn])).append
        (show OwnedFrees _ (.setProc sets) from trivial)
      by_cases reach : calls.ReachFree
      · have lifetimes : held (((calls.copies ++ [calls.capDupOn]).map Event.returned ++
            [Event.setProc sets]).filterMap Event.lifetime) =
              calls.copies ++ [calls.capDupOn] := by
          have untouched : [Event.setProc sets].filterMap Event.lifetime = [] := rfl
          rw [List.filterMap_append, untouched, List.append_nil, lifetimes_returned,
            held_acquired]
        have clearHeld : calls.capInit ∈ calls.copies :=
          (mem_copies_iff calls calls.capInit).mpr ⟨reach.capInit, .inl rfl⟩
        refine (drop_ownedFrees front ?_ ?_ ?_ port.toUInt32.toUInt16).front
          ((List.prefix_append_right_inj _).mpr (bindAndDrop_part calls port.toUInt32 on))
        · rw [lifetimes, address]
          exact List.mem_append_right _ List.mem_cons_self
        · rw [lifetimes]
          exact List.mem_append_left _ clearHeld
        · rw [address]
          exact (calls.distinctOn nonnull).1.symm
      · exact bindAndDrop_ownedFrees reach front port.toUInt32 on
  | kept unprivileged =>
      have stopped := condition.resolve_left unprivileged
      exact bindAndDrop_ownedFrees stopped (returned_ownedFrees _) port.toUInt32 privilegeOn

/-- On another port `privilege_on` is freed with what the variable happened to hold. -/
theorem Course.freed_mem_copies (unprivileged : ¬ port.toUInt32 < 1024) (reach : calls.ReachFree)
    (owned : Follows OwnedFrees events) : privilegeOn.address ∈ calls.copies := by
  cases course with
  | ended wellKnown => exact absurd wellKnown unprivileged
  | raised wellKnown _ _ _ => exact absurd wellKnown unprivileged
  | kept _ =>
      obtain ⟨rest, dropped, -⟩ := bindAndDrop_of_reachFree reach port.toUInt32 privilegeOn
      rw [dropped] at owned
      have freed := owned
        (calls.copies.map Event.returned ++ [.bound port.toUInt32.toUInt16, .setProc .empty])
        (.freed privilegeOn.address) rest (by simp)
      have untouched : [Event.bound port.toUInt32.toUInt16, .setProc .empty].filterMap
          Event.lifetime = [] := rfl
      rwa [OwnedFrees, List.filterMap_append, untouched, List.append_nil, lifetimes_returned,
        held_acquired] at freed

end Course

theorem main_lawful_iff (program port : CString) (calls : Calls) (initial : CapabilitySets) :
    (∀ privilegeOn, Follows (Lawful initial) (main [program, port] calls privilegeOn).1) ↔
      (atoi port).toUInt32 < 1024 ∨ ¬ calls.ReachFree := by
  have course (privilegeOn : Handle) := serve_course (atoi port) calls privilegeOn
  constructor
  · intro lawful
    by_contra reached
    obtain ⟨unprivileged, reach⟩ := not_or.mp reached
    -- A null pointer is a value the variable may hold and no object has.
    have owned := (follows_and_iff.mp (lawful ⟨0, .empty⟩)).1
    have freed := (course ⟨0, .empty⟩).freed_mem_copies unprivileged (not_not.mp reach) owned
    exact ((mem_copies_iff calls 0).mp freed).1 rfl
  · intro condition privilegeOn
    exact follows_and_iff.mpr
      ⟨(course privilegeOn).ownedFrees condition, (course privilegeOn).droppedSets initial⟩

/-- Every call succeeds; the objects of `cap_init` and `cap_dup` are at 16, 32 and 48. -/
def successfulCalls : Calls where
  capInit := 16
  capDupOff := 32
  capSetFlagOff := true
  capDupOn := 48
  capSetFlagOn := true
  capSetProcOn := true
  socket := true
  getresuid := some ⟨1000, 1000, 1000⟩
  bind := true
  capSetProcClear := true
  capFreeOn := true
  capFreeClear := true
  listen := true
  distinctOff := by decide
  distinctOn := by decide

/-- On port 8080 the first `cap_free` gets what the stack held. -/
theorem main_frees_indeterminate :
    ¬ ∀ (program port : CString) (calls : Calls) (initial : CapabilitySets) (privilegeOn : Handle),
      Follows (Lawful initial) (main [program, port] calls privilegeOn).1 := by
  intro lawful
  have owned := (follows_and_iff.mp
    (lawful (ascii "capserver") (ascii "8080") successfulCalls .empty ⟨64, .empty⟩)).1
  have freed := (serve_course _ _ _).freed_mem_copies (by decide)
    ⟨rfl, rfl, rfl, by decide, rfl⟩ owned
  exact absurd freed (by decide)

end NetworkServices.CapServer
