import NetworkServices.Privileges.Programs
import NetworkServices.Privileges.RootServerProperties

/-! What is left of the privileges when the three servers come to `accept`. The one that has a
file capability keeps it, the one that empties its sets has lost it for good, and the one that
changes its user ids has lost it unless its real id is still the one of root. -/

set_option autoImplicit false

namespace NetworkServices.PrivilegedServers

open CapServer (CapabilitySets capNetBindService)
open RootServer (capSetuid)

/-- Some later system calls let the process bind a port below 1024. -/
def World.CanBind (world : World) : Prop :=
  world.privileges.CanRaise 0 capSetuid capNetBindService

theorem canBind_iff (world : World) :
    world.CanBind ↔ capNetBindService ∈ world.privileges.permitted :=
  Privileges.canRaise_iff

def atAccept (secure : World → Prop) (world : World) : Call → Prop
  | .accept _ => secure world
  | _ => True

/-- In every run the property holds in front of `accept`. -/
def Secures (secure : World → Prop) (world : World) (program : Process Unit) : Prop :=
  Meets (interface.guard (atAccept secure)) (fun _ _ => True) (fun _ _ => True) world program

theorem Secures.reaches {secure : World → Prop} {start last : World} {program : Process Unit}
    {trace : List (Exchange Call Answer)} {sockfd : Nat}
    {next : Answer (.accept sockfd) → Process Unit} (secures : Secures secure start program)
    (run : Reaches interface start program trace last (.call (.accept sockfd) next)) :
    secure last :=
  (Meets.reaches secures (run.guard _)).1

section Rules

variable {secure : World → Prop} {world : World}

theorem secures_call {request : Call} {next : Answer request → Process Unit}
    (other : ∀ fd, request ≠ .accept fd)
    (later : ∀ answer, interface.promise world request answer →
      Secures secure (interface.after world request answer) (next answer)) :
    Secures secure world (.call request next) := by
  refine ⟨?_, later⟩
  cases request with
  | accept fd => exact absurd rfl (other fd)
  | _ => trivial

theorem secures_print {stream : Stream} {text : CString} {next : Unit → Process Unit}
    (later : Secures secure world (next ())) :
    Secures secure world (fprintf stream text >>= next) :=
  secures_call nofun fun _ _ => later

theorem secures_failWithPerror {Result : Type} {text : CString} {next : Result → Process Unit} :
    Secures secure world (failWithPerror text >>= next) :=
  secures_call nofun fun _ _ => trivial

theorem secures_failSaying {Result : Type} {text : CString} {next : Result → Process Unit} :
    Secures secure world (failSaying text >>= next) :=
  secures_call nofun fun _ _ => trivial

/-- Without the arguments it asks for a server fails. -/
theorem secures_invocation {text : CString} : Secures secure world (failSaying text) :=
  secures_call nofun fun _ _ => trivial

theorem secures_orFail {succeeded : Bool} {text : CString} {next : Unit → Process Unit}
    (later : succeeded = true → Secures secure world (next ())) :
    Secures secure world (orFail succeeded text >>= next) := by
  cases succeeded with
  | false => exact secures_failWithPerror
  | true => exact later rfl

theorem secures_orNone {Result : Type} {answer : Option Result} {text : CString}
    {next : Result → Process Unit}
    (later : ∀ result, answer = some result → Secures secure world (next result)) :
    Secures secure world (orNone answer text >>= next) := by
  cases answer with
  | none => exact secures_failWithPerror
  | some result => exact later result rfl

theorem secures_showIds {next : Credentials UInt32 → Process Unit}
    (later : Secures secure world (next world.privileges.ids)) :
    Secures secure world (showIds >>= next) := by
  rw [showIds]
  simp only [bind_assoc]
  refine secures_call nofun fun answer promised => secures_orNone fun ids shown => ?_
  have same : ids = world.privileges.ids := promised ids shown
  rw [same]
  exact secures_print later

theorem secures_openSocket {next : Nat → Process Unit}
    (later : ∀ fd, Secures secure { world with descriptors := fd :: world.descriptors } (next fd)) :
    Secures secure world (openSocket >>= next) := by
  rw [openSocket]
  simp only [bind_assoc]
  refine secures_call nofun fun answer promised => secures_orNone fun fd opened => ?_
  cases opened
  exact later fd

theorem secures_bindPort {listenfd : Nat} {port_number : UInt32} {next : Unit → Process Unit}
    (later : ∀ port, Chosen port_number.toUInt16 port →
      (port < 1024 → capNetBindService ∈ world.privileges.effective) →
      Secures secure { world with bound := world.bound ++ [(listenfd, port)] } (next ())) :
    Secures secure world (bindPort listenfd port_number >>= next) := by
  rw [bindPort]
  simp only [bind_assoc]
  refine secures_print (secures_call nofun fun answer promised => secures_orFail fun bound => ?_)
  cases answer with
  | none => cases bound
  | some port =>
      obtain ⟨_, chosen, granted⟩ := promised port rfl
      exact later port chosen granted

theorem secures_requireUnprivileged {ids : Credentials UInt32} {next : Unit → Process Unit}
    (later : ids.effective ≠ 0 → ids.saved ≠ 0 → Secures secure world (next ())) :
    Secures secure world (requireUnprivileged ids >>= next) := by
  rw [requireUnprivileged]
  by_cases root : ids.effective = 0 ∨ ids.saved = 0
  · rw [if_pos root]
    exact secures_failSaying
  · rw [if_neg root]
    rw [not_or] at root
    exact later root.1 root.2

/-- The property has to hold as soon as the socket listens. -/
theorem secures_listenAndAccept {listenfd : Nat}
    (holds : secure { world with listening := world.listening ++ [listenfd] }) :
    Secures secure world (listenAndAccept listenfd) := by
  rw [listenAndAccept]
  refine secures_call nofun fun succeeded _ => secures_orFail fun listens => ?_
  cases listens
  refine secures_print ?_
  rw [acceptOne]
  refine ⟨holds, fun answer _ => secures_orNone fun connection accepted => ?_⟩
  refine secures_print (secures_call nofun fun _ _ => secures_print ?_)
  exact secures_call nofun fun _ _ => secures_call nofun fun _ _ => trivial

end Rules

/-- The number that `sin_port` gets. -/
def sinPort (argv : List CString) : UInt16 :=
  (atoi (argv.getD 1 [])).toUInt32.toUInt16

/-- What holds of all three servers in front of `accept`. -/
structure Listens (start : World) (sin_port : UInt16) (last : World) : Prop where
  bound : ∃ listenfd ∈ last.listening, ∃ port, last.bound = start.bound ++ [(listenfd, port)] ∧
    Chosen sin_port port ∧ (port < 1024 → capNetBindService ∈ start.privileges.permitted)
  effective : last.privileges.ids.effective ≠ 0
  saved : last.privileges.ids.saved ≠ 0

theorem secures_fserver (start : World) (argv : List CString) :
    Secures (fun last => Listens start (sinPort argv) last ∧ last.privileges = start.privileges)
      start (fserver argv) := by
  match argv with
  | [name, port] =>
      rw [fserver]
      refine secures_openSocket fun listenfd => secures_showIds ?_
      refine secures_bindPort fun port chosen granted => secures_showIds ?_
      refine secures_requireUnprivileged fun effective saved => secures_listenAndAccept ?_
      refine ⟨⟨⟨listenfd, by simp, port, rfl, chosen, ?_⟩, effective, saved⟩, rfl⟩
      intro wellKnown
      exact start.privileges.contained (granted wellKnown)
  | [] | [_] | _ :: _ :: _ :: _ => exact secures_invocation

/-!
## The user ids
-/

/-- The privileges behind `setuid`, which may fail. -/
def World.afterSetuid (world : World) (uid : UInt32) (succeeded : Bool) :
    Privileges UInt32 Int32 :=
  if succeeded then (world.setuid uid).getD world.privileges else world.privileges

theorem permitted_afterSetuid (world : World) (uid : UInt32) (succeeded : Bool) :
    (world.afterSetuid uid succeeded).permitted =
      if world.privileges.ids.Holds 0 ∧ ¬ (world.afterSetuid uid succeeded).ids.Holds 0 then ∅
      else world.privileges.permitted := by
  have unchanged : world.privileges.permitted =
      if world.privileges.ids.Holds 0 ∧ ¬ world.privileges.ids.Holds 0 then ∅
      else world.privileges.permitted := (if_neg fun gone => gone.2 gone.1).symm
  cases succeeded with
  | false => exact unchanged
  | true =>
      simp only [World.afterSetuid, if_true]
      cases performed : world.setuid uid with
      | none => exact unchanged
      | some next =>
          rw [World.setuid, Privileges.perform, Option.ite_none_right_eq_some] at performed
          obtain ⟨_, result⟩ := performed
          rw [Option.getD_some, ← Option.some.inj result, Privileges.permitted_changeIds,
            Privileges.ids_changeIds]

theorem secures_requireRoot {secure : World → Prop} {world : World} {port_number : UInt32}
    {next : Unit → Process Unit}
    (later : (port_number < 1024 → world.privileges.ids.effective = 0) →
      Secures secure world (next ())) :
    Secures secure world (requireRoot port_number >>= next) := by
  rw [requireRoot]
  by_cases wellKnown : port_number < 1024
  · rw [if_pos wellKnown]
    simp only [bind_assoc]
    refine secures_call nofun fun euid promised => ?_
    have same : euid = world.privileges.ids.effective := promised
    show Secures secure world ((if euid ≠ 0 then failSaying _ else pure ()) >>= next)
    by_cases other : euid ≠ 0
    · rw [if_pos other]
      exact secures_failSaying
    · rw [if_neg other]
      exact later fun _ => same.symm.trans (not_not.mp other)
  · rw [if_neg wellKnown]
    exact later fun below => absurd below wellKnown

theorem holds_iff_real {ids : Credentials UInt32} (effective : ids.effective ≠ 0)
    (saved : ids.saved ≠ 0) : ids.Holds 0 ↔ ids.real = 0 := by
  constructor
  · rintro (real | zero | zero)
    · exact real.symm
    · exact absurd zero.symm effective
    · exact absurd zero.symm saved
  · intro real
    exact .inl real.symm

/-- With an effective and a saved id that are not root's, `setuid` has kept what was permitted
exactly when there was no id of root to give up, or the real one is left. -/
theorem mem_permitted_afterSetuid_iff (start : World) (uid : UInt32) (succeeded : Bool)
    (effective : (start.afterSetuid uid succeeded).ids.effective ≠ 0)
    (saved : (start.afterSetuid uid succeeded).ids.saved ≠ 0) (capability : Int32) :
    capability ∈ (start.afterSetuid uid succeeded).permitted ↔
      capability ∈ start.privileges.permitted ∧
        (start.privileges.ids.Holds 0 → (start.afterSetuid uid succeeded).ids.real = 0) := by
  have real := holds_iff_real effective saved
  rw [permitted_afterSetuid]
  by_cases lost : start.privileges.ids.Holds 0 ∧ ¬ (start.afterSetuid uid succeeded).ids.Holds 0
  · rw [if_pos lost]
    refine iff_of_false (Finset.notMem_empty _) ?_
    rintro ⟨_, kept⟩
    exact lost.2 (real.mpr (kept lost.1))
  · rw [if_neg lost]
    rw [not_and, not_not] at lost
    exact (and_iff_left fun held => real.mp (lost held)).symm

theorem secures_rootserver (start : World) (argv : List CString) :
    Secures (fun last => Listens start (sinPort argv) last ∧
      (capNetBindService ∈ last.privileges.permitted ↔
        capNetBindService ∈ start.privileges.permitted ∧
          (start.privileges.ids.Holds 0 → last.privileges.ids.real = 0)))
      start (rootserver argv) := by
  match argv with
  | [name, port, uid] =>
      rw [rootserver]
      refine secures_requireRoot fun _ => ?_
      refine secures_openSocket fun listenfd => secures_showIds ?_
      refine secures_bindPort fun port chosen granted => ?_
      refine secures_call nofun fun succeeded _ => secures_showIds ?_
      refine secures_requireUnprivileged fun effective saved => secures_listenAndAccept ?_
      refine ⟨⟨⟨listenfd, by simp [interface], port, rfl, chosen, ?_⟩, effective, saved⟩, ?_⟩
      · intro wellKnown
        exact start.privileges.contained (granted wellKnown)
      · exact mem_permitted_afterSetuid_iff start _ succeeded effective saved _
  | [] | [_] | [_, _] | _ :: _ :: _ :: _ :: _ => exact secures_invocation

/-- A run that comes to `accept` is one that listens in the model of the server on its own,
with the same privileges. -/
theorem rootserver_listening {start last : World} {argv : List CString}
    {trace : List (Exchange Call Answer)} {sockfd : Nat}
    {next : Answer (.accept sockfd) → Process Unit}
    (run : Reaches interface start (rootserver argv) trace last (.call (.accept sockfd) next)) :
    ∃ calls, (RootServer.main argv start.privileges calls).2 =
      .listening (sinPort argv) last.privileges := by
  suffices secures : Secures (fun last => ∃ calls,
      (RootServer.main argv start.privileges calls).2 =
        .listening (sinPort argv) last.privileges) start (rootserver argv) from
    secures.reaches run
  match argv with
  | [name, port, uid] =>
      rw [rootserver]
      refine secures_requireRoot fun root => ?_
      refine secures_openSocket fun listenfd => secures_showIds ?_
      refine secures_bindPort fun _ _ _ => ?_
      refine secures_call nofun fun succeeded _ => secures_showIds ?_
      refine secures_requireUnprivileged fun effective saved => secures_listenAndAccept ?_
      refine ⟨⟨true, true, true, succeeded, true⟩, ?_⟩
      refine RootServer.serve_eq_listening_iff.mpr ⟨?_, ⟨rfl, rfl, rfl, rfl⟩, rfl, effective,
        saved, rfl⟩
      rintro ⟨wellKnown, other⟩
      exact other (root wellKnown)
  | [] | [_] | [_, _] | _ :: _ :: _ :: _ :: _ => exact secures_invocation

/-!
## The capability sets
-/

/-- What the object of `privilege_clear` holds. -/
structure Clear (privilege_clear : UInt64) (world : World) : Prop where
  null : world.objects 0 = none
  object : privilege_clear ≠ 0 → world.objects privilege_clear = some .empty

/-- In front of `bind` the sets of the process may have changed, but none of them has grown
beyond what was permitted. -/
structure Raises (privilege_clear : UInt64) (start world : World) : Prop where
  clear : Clear privilege_clear world
  permitted : world.privileges.permitted ⊆ start.privileges.permitted
  bound : world.bound = start.bound

section Capabilities

variable {secure : World → Prop} {start world : World} {privilege_clear cap : UInt64}

theorem Raises.store (raises : Raises privilege_clear start world) (nonzero : cap ≠ 0)
    (other : cap ≠ privilege_clear) (sets : Option CapabilitySets) :
    Raises privilege_clear start (world.store cap sets) where
  clear := {
    null := by
      rw [World.store]
      dsimp only
      rw [if_neg (Ne.symm nonzero)]
      exact raises.clear.null
    object := by
      intro allocated
      rw [World.store]
      dsimp only
      rw [if_neg (Ne.symm other)]
      exact raises.clear.object allocated }
  permitted := raises.permitted
  bound := raises.bound

theorem secures_cap_dup {next : UInt64 → Process Unit}
    (raises : Raises privilege_clear start world)
    (later : ∀ copy world', (copy ≠ 0 → copy ≠ privilege_clear) →
      Raises privilege_clear start world' → Secures secure world' (next copy)) :
    Secures secure world (.invoke (Call.cap_dup cap) >>= next) := by
  refine secures_call nofun fun copy promised => ?_
  by_cases null : copy = 0
  · refine later copy _ (fun nonzero => absurd null nonzero) ?_
    simpa only [interface, Interface.guard, if_pos null] using raises
  · have other : copy ≠ privilege_clear := by
      rintro rfl
      have fresh := (promised null).1
      rw [raises.clear.object null] at fresh
      cases fresh
    refine later copy _ (fun _ => other) ?_
    simpa only [interface, Interface.guard, if_neg null] using raises.store null other _

theorem secures_cap_set_flag {flag : Flag} {text : CString} {next : Unit → Process Unit}
    (raises : Raises privilege_clear start world) (other : cap ≠ 0 → cap ≠ privilege_clear)
    (later : ∀ world', Raises privilege_clear start world' → Secures secure world' (next ())) :
    Secures secure world (.invoke (Call.cap_set_flag cap flag) >>= fun succeeded =>
      orFail succeeded text >>= next) := by
  refine secures_call nofun fun succeeded promised => secures_orFail fun done => later _ ?_
  cases done
  have nonzero : cap ≠ 0 := by
    rintro rfl
    have found := promised rfl
    rw [raises.clear.null] at found
    cases found
  exact raises.store nonzero (other nonzero) _

/-- A set that is installed is contained in what was permitted before. -/
theorem capset_eq_some {sets : CapabilitySets} {privileges : Privileges UInt32 Int32}
    (performed : world.capset sets = some privileges) :
    privileges.ids = world.privileges.ids ∧ privileges.permitted = sets.permitted ∧
      sets.permitted ⊆ world.privileges.permitted := by
  rw [World.capset, Privileges.perform, Option.dite_none_right_eq_some] at performed
  obtain ⟨contained, result⟩ := performed
  cases Option.some.inj result
  exact ⟨rfl, rfl, contained.1⟩

theorem secures_cap_set_proc {text : CString} {next : Unit → Process Unit}
    (later : ∀ sets privileges, world.objects cap = some sets →
      world.capset sets = some privileges → Secures secure { world with privileges } (next ())) :
    Secures secure world (.invoke (Call.cap_set_proc cap) >>= fun succeeded =>
      orFail succeeded text >>= next) := by
  refine secures_call nofun fun succeeded promised => secures_orFail fun done => ?_
  cases done
  obtain ⟨privileges, performed⟩ := Option.isSome_iff_exists.mp (promised rfl)
  obtain ⟨sets, found, installed⟩ := Option.bind_eq_some_iff.mp performed
  have privileged := later sets privileges found installed
  simpa only [interface, Interface.guard, if_true, performed, Option.getD_some] using privileged

theorem secures_raisePrivilege {privilege_off : UInt64} {next : UInt64 → Process Unit}
    (raises : Raises privilege_clear start world)
    (other : privilege_off ≠ 0 → privilege_off ≠ privilege_clear)
    (later : ∀ privilege_on world', Raises privilege_clear start world' →
      Secures secure world' (next privilege_on)) :
    Secures secure world (raisePrivilege privilege_off >>= next) := by
  rw [raisePrivilege]
  simp only [bind_assoc]
  refine secures_cap_set_flag raises other fun world raises => ?_
  refine secures_cap_dup raises fun privilege_on world separate raises => ?_
  refine secures_cap_set_flag raises separate fun world raises => ?_
  refine secures_cap_set_proc fun sets privileges found installed => later privilege_on _ ?_
  obtain ⟨_, permitted, contained⟩ := capset_eq_some installed
  refine ⟨⟨raises.clear.null, raises.clear.object⟩, ?_, raises.bound⟩
  rw [permitted]
  exact contained.trans raises.permitted

theorem secures_cap_init {next : UInt64 → Process Unit} (null : start.objects 0 = none)
    (later : ∀ privilege_clear world, Raises privilege_clear start world →
      Secures secure world (next privilege_clear)) :
    Secures secure start (.invoke Call.cap_init >>= next) := by
  refine secures_call nofun fun cap promised => later cap _ ?_
  by_cases failed : cap = 0
  · simp only [interface, if_pos failed]
    exact ⟨⟨null, fun nonzero => absurd failed nonzero⟩, Finset.Subset.refl _, rfl⟩
  · simp only [interface, if_neg failed]
    refine ⟨⟨?_, fun _ => if_pos rfl⟩, Finset.Subset.refl _, rfl⟩
    exact (if_neg (Ne.symm failed)).trans null

theorem secures_freeCapabilities {privilege_on : UInt64} {next : Unit → Process Unit}
    (later : ∀ world', world'.privileges = world.privileges → world'.bound = world.bound →
      Secures secure world' (next ())) :
    Secures secure world (freeCapabilities privilege_on privilege_clear >>= next) := by
  rw [freeCapabilities]
  simp only [bind_assoc]
  refine secures_call nofun fun first _ => ?_
  cases first with
  | false => exact secures_failWithPerror
  | true =>
      refine secures_call nofun fun second _ => secures_orFail fun done => ?_
      cases done
      exact later _ rfl rfl

theorem secures_bindAndDrop (raises : Raises privilege_clear start world) (port_number : UInt32)
    (privilege_on : UInt64) :
    Secures (fun last => Listens start port_number.toUInt16 last ∧
      last.privileges.permitted = ∅) world
      (bindAndDrop port_number privilege_clear privilege_on) := by
  rw [bindAndDrop]
  refine secures_openSocket fun listenfd => secures_showIds ?_
  refine secures_bindPort fun port chosen granted => ?_
  refine secures_cap_set_proc fun sets privileges found installed => ?_
  refine secures_freeCapabilities fun last kept bound => ?_
  refine secures_requireUnprivileged fun effective saved => secures_listenAndAccept ?_
  obtain ⟨ids, permitted, _⟩ := capset_eq_some installed
  have allocated : privilege_clear ≠ 0 := by
    rintro rfl
    rw [raises.clear.null] at found
    cases found
  rw [raises.clear.object allocated] at found
  cases found
  refine ⟨⟨⟨listenfd, by simp, port, ?_, chosen, ?_⟩, ?_, ?_⟩, ?_⟩
  · exact bound.trans (congrArg (· ++ _) raises.bound)
  · intro wellKnown
    exact raises.permitted (world.privileges.contained (granted wellKnown))
  · rw [kept, ids]
    exact effective
  · rw [kept, ids]
    exact saved
  · rw [kept]
    exact permitted

end Capabilities

theorem secures_capserver {start : World} (null : start.objects 0 = none) (argv : List CString)
    (privilege_on : UInt64) :
    Secures (fun last => Listens start (sinPort argv) last ∧ last.privileges.permitted = ∅) start
      (capserver argv privilege_on) := by
  match argv with
  | [name, port] =>
      rw [capserver]
      refine secures_cap_init null fun privilege_clear world raises => ?_
      refine secures_cap_dup raises fun privilege_off world separate raises => ?_
      by_cases wellKnown : (atoi port).toUInt32 < 1024
      · simp only [if_pos wellKnown]
        exact secures_raisePrivilege raises separate fun privilege_on world raises =>
          secures_bindAndDrop raises _ privilege_on
      · simp only [if_neg wellKnown]
        exact secures_bindAndDrop raises _ privilege_on
  | [] | [_] | _ :: _ :: _ :: _ => exact secures_invocation

/-!
## The servers next to each other
-/

def ComesToAccept (start last : World) (program : Process Unit) : Prop :=
  ∃ trace sockfd next, Reaches interface start program trace last (.call (.accept sockfd) next)

theorem Secures.comes {secure : World → Prop} {start last : World} {program : Process Unit}
    (secures : Secures secure start program) (comes : ComesToAccept start last program) :
    secure last := by
  obtain ⟨trace, sockfd, next, run⟩ := comes
  exact secures.reaches run

/-- For any privileges at the start, any arguments and any answers of the kernel, a server that
has come to `accept` can bind a well-known port again: `fserver.c` exactly when it could at its
start, `rootserver.c` exactly when it was permitted to and has not given up its last id of root,
`capserver.c` never. A server that has bound a well-known port was permitted to. -/
theorem binds_again_iff {start : World} (null : start.objects 0 = none) (argv : List CString)
    (last : World) :
    (ComesToAccept start last (fserver argv) → Listens start (sinPort argv) last ∧
      (last.CanBind ↔ capNetBindService ∈ start.privileges.permitted)) ∧
    (ComesToAccept start last (rootserver argv) → Listens start (sinPort argv) last ∧
      (last.CanBind ↔ capNetBindService ∈ start.privileges.permitted ∧
        (start.privileges.ids.Holds 0 → last.privileges.ids.real = 0))) ∧
    ∀ privilege_on, ComesToAccept start last (capserver argv privilege_on) →
      Listens start (sinPort argv) last ∧ ¬ last.CanBind := by
  rw [canBind_iff]
  refine ⟨?_, ?_, ?_⟩
  · intro comes
    obtain ⟨listens, same⟩ := (secures_fserver start argv).comes comes
    exact ⟨listens, by rw [same]⟩
  · exact (secures_rootserver start argv).comes
  · intro privilege_on comes
    obtain ⟨listens, empty⟩ := (secures_capserver null argv privilege_on).comes comes
    refine ⟨listens, ?_⟩
    rw [empty]
    exact Finset.notMem_empty _

/-- The address of a new object, where one of three is left. -/
def World.unused (world : World) : UInt64 :=
  ([8, 16, 24].find? fun cap => world.objects cap = none).getD 0

theorem World.objects_unused {world : World} (found : world.unused ≠ 0) :
    world.objects world.unused = none := by
  cases first : [8, 16, 24].find? fun cap => world.objects cap = none with
  | none =>
      rw [World.unused, first] at found
      exact absurd rfl found
  | some cap =>
      rw [World.unused, first]
      exact of_decide_eq_true (List.find?_some (p := fun cap => world.objects cap = none) first)

/-- A kernel in which what is permitted succeeds, and no client comes. -/
def permissive (world : World) : (request : Call) → Answer request
  | .geteuid => world.privileges.ids.effective
  | .getresuid => some world.privileges.ids
  | .setuid uid => (world.setuid uid).isSome
  | .cap_init => world.unused
  | .cap_dup cap_p => if (world.objects cap_p).isSome then world.unused else 0
  | .cap_set_flag cap_p _ => (world.objects cap_p).isSome
  | .cap_set_proc cap_p => ((world.objects cap_p).bind world.capset).isSome
  | .cap_free _ | .listen _ => true
  | .socket => if 3 ∈ world.descriptors then none else some 3
  | .bind sockfd sin_port =>
      let port := if sin_port = 0 then 32768 else sin_port
      if sockfd ∈ world.descriptors ∧
        (port < 1024 → capNetBindService ∈ world.privileges.effective) then some port
      else none
  | .accept _ => none
  | .fprintf _ _ | .perror _ | .sleep _ | .close _ => ()

theorem permissive_honest (world : World) (request : Call) :
    interface.promise world request (permissive world request) := by
  cases request with
  | geteuid => rfl
  | getresuid => exact fun ids shown => (Option.some.inj shown).symm
  | setuid uid | cap_set_flag cap_p flag | cap_set_proc cap_p => exact id
  | cap_init => exact World.objects_unused
  | cap_dup cap_p =>
      intro allocated
      simp only [permissive] at allocated ⊢
      by_cases object : (world.objects cap_p).isSome
      · rw [if_pos object] at allocated ⊢
        exact ⟨World.objects_unused allocated, object⟩
      · rw [if_neg object] at allocated
        exact absurd rfl allocated
  | socket =>
      intro fd opened
      simp only [permissive] at opened
      by_cases taken : 3 ∈ world.descriptors
      · rw [if_pos taken] at opened
        cases opened
      · rw [if_neg taken] at opened
        cases opened
        exact taken
  | bind sockfd sin_port =>
      intro port bound
      have chosen : Chosen sin_port (if sin_port = 0 then 32768 else sin_port) := by
        rw [Chosen]
        split
        · decide
        · rfl
      simp only [permissive, Option.mem_def, Option.ite_none_right_eq_some] at bound
      obtain ⟨⟨member, granted⟩, same⟩ := bound
      cases Option.some.inj same
      exact ⟨member, chosen, granted⟩
  | accept sockfd => exact nofun
  | _ => trivial

/-- A process without a capability object. -/
def World.started (privileges : Privileges UInt32 Int32) : World where
  privileges
  objects _ := none
  descriptors := [0, 1, 2]
  bound := []
  listening := []

theorem comes_permissive (calls : Nat) (start : World) (program : Process Unit) {sockfd : Nat}
    {last : World} {next : Answer (.accept sockfd) → Process Unit}
    (played : (interface.play permissive calls start program).2 =
      (last, .call (.accept sockfd) next)) : ComesToAccept start last program := by
  have run := Interface.reaches_play permissive_honest calls start program
  rw [played] at run
  exact ⟨_, sockfd, next, run⟩

def user : World :=
  .started ⟨⟨1000, 1000, 1000⟩, {capNetBindService}, {capNetBindService}, Finset.Subset.refl _⟩

def superuser : World :=
  .started ⟨⟨0, 0, 0⟩, {capSetuid, capNetBindService}, {capSetuid, capNetBindService},
    Finset.Subset.refl _⟩

theorem binds_again_iff_port80 :
    (∃ last, ComesToAccept user last (fserver [ascii "fserver", ascii "80"]) ∧ last.CanBind) ∧
    (∃ last, ComesToAccept user last (capserver [ascii "capserver", ascii "80"] 0) ∧
      ¬ last.CanBind) ∧
    ∃ last, ComesToAccept superuser last
      (rootserver [ascii "rootserver", ascii "80", ascii "1000"]) ∧ ¬ last.CanBind := by
  have fserver := comes_permissive 9 user (fserver [ascii "fserver", ascii "80"]) rfl
  have capserver := comes_permissive 16 user (capserver [ascii "capserver", ascii "80"] 0) rfl
  have rootserver := comes_permissive 11 superuser
    (rootserver [ascii "rootserver", ascii "80", ascii "1000"]) rfl
  refine ⟨⟨_, fserver, ?_⟩, ⟨_, capserver, ?_⟩, ⟨_, rootserver, ?_⟩⟩
  · exact ((binds_again_iff rfl _ _).1 fserver).2.mpr (Finset.mem_singleton_self _)
  · exact ((binds_again_iff rfl _ _).2.2 0 capserver).2
  · intro binds
    have left := ((binds_again_iff rfl _ _).2.1 rootserver).2.mp binds
    exact absurd (left.2 (.inl rfl)) (by decide)

end NetworkServices.PrivilegedServers
