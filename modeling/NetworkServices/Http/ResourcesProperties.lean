import NetworkServices.Http.Resources
import Mathlib.Data.List.Nodup
import Mathlib.Data.List.Perm.Basic

/-! No handler closes its connection, so the descriptors account for every connection that
was ever accepted, and when they are used up the process ends. -/

set_option autoImplicit false

namespace NetworkServices.Http.Resources

variable {limit : Nat} {inherited : DescriptorTable OpenFile}

/-!
## What a run keeps
-/

/-- What is accounted for, and what the loop of `main` needs to go on. -/
structure Sound (limit : Nat) (inherited : DescriptorTable OpenFile) (machine : Machine) :
    Prop where
  accounted : Accounted limit inherited machine
  slots : machine.shared.table.slots.length ≤ limit
  nonzero : ∀ fd ∈ machine.accepted, fd ≠ 0

theorem sound_start (fits : inherited.slots.length ≤ limit) :
    Sound limit inherited (.start inherited) where
  accounted :=
    { counted := rfl
      limited := inherited.openCount_le_length.trans fits
      distinct := List.nodup_nil
      connected := nofun
      unshared := List.nodup_nil
      listed := nofun
      served := .refl _
      own := nofun
      separate := List.nodup_nil
      stored := nofun
      leaked := ⟨List.nodup_nil, nofun⟩ }
  slots := fits
  nonzero := nofun

theorem filterMap_split {α β : Type} (f : α → Option β) (front : List α) (value : α)
    (back : List α) :
    (front ++ value :: back).filterMap f =
      front.filterMap f ++ ((f value).toList ++ back.filterMap f) := by
  rw [List.filterMap_append, List.filterMap_cons]
  cases f value <;> rfl

theorem ne_of_lookup {table : DescriptorTable OpenFile} {fd : Nat} {file : OpenFile}
    (opened : table.lookup fd = some file) : fd ≠ table.lowestFree := by
  rintro rfl
  rw [table.lookup_lowestFree] at opened
  cases opened

/-!
## The loop of main
-/

section Main

variable {machine next : Machine}

theorem Sound.accept (sound : Sound limit inherited machine) (waiting : machine.main = .accepting)
    (free : machine.shared.table.lowestFree < limit)
    (positive : machine.shared.table.lowestFree ≠ 0) :
    Sound limit inherited { machine with
      shared := { machine.shared with table := (machine.shared.table.allocate .connection).2 }
      main := .storing machine.shared.table.lowestFree
      accepted := machine.accepted ++ [machine.shared.table.lowestFree] } := by
  obtain ⟨accounted, slots, nonzero⟩ := sound
  obtain ⟨counted, limited, distinct, connected, unshared, listed, served, own, separate, stored,
    leaked⟩ := accounted
  have kept {fd : Nat} {file : OpenFile} (opened : machine.shared.table.lookup fd = some file) :
      (machine.shared.table.allocate .connection).2.lookup fd = some file :=
    (DescriptorTable.lookup_allocate_of_ne _ (ne_of_lookup opened)).trans opened
  have fits := DescriptorTable.length_allocate_le slots free .connection
  have new : machine.shared.table.lowestFree ∉ machine.accepted := fun member =>
    ne_of_lookup (connected _ member) rfl
  have threads : machine.connections = machine.handlers.map Handler.connection := by
    simp [Machine.connections, waiting, Main.pending]
  have nobody : machine.blocks = machine.handlers.filterMap Handler.block := by
    simp [Machine.blocks, waiting, Main.block]
  refine ⟨⟨?_, (DescriptorTable.openCount_le_length _).trans fits, ?_, ?_, unshared,
    fun dir member => kept (listed dir member), ?_, own, ?_, ?_, leaked⟩, fits, ?_⟩
  · rw [DescriptorTable.openCount_allocate, counted, List.length_append]
    simp only [Machine.directories, List.length_singleton]
    omega
  · rw [← List.concat_eq_append]
    exact distinct.concat new
  · intro fd member
    rcases List.mem_append.mp member with old | new
    · exact kept (connected fd old)
    · rw [List.mem_singleton.mp new]
      exact DescriptorTable.lookup_allocate _ _
  · rw [threads] at served
    exact served.append (.refl _)
  · rw [nobody] at separate
    simpa [Machine.blocks, Main.block] using separate
  · rw [nobody] at stored
    simpa [Machine.blocks, Main.block] using stored
  · intro fd member
    rcases List.mem_append.mp member with old | new
    · exact nonzero fd old
    · rw [List.mem_singleton.mp new]
      exact positive

theorem Sound.malloc (sound : Sound limit inherited machine) {new_socket new_sock : Nat}
    (connected : machine.main = .storing new_socket)
    (fresh : machine.shared.heap new_sock = none) :
    Sound limit inherited { machine with
      shared := { machine.shared with
        heap := Function.update machine.shared.heap new_sock (some (.new_sock new_socket)) }
      main := .creating new_socket new_sock } := by
  obtain ⟨accounted, slots, nonzero⟩ := sound
  have nobody : machine.blocks = machine.handlers.filterMap Handler.block := by
    simp [Machine.blocks, connected, Main.block]
  have other {address : Nat} {block : Block}
      (used : machine.shared.heap address = some block) : address ≠ new_sock := by
    rintro rfl
    rw [fresh] at used
    cases used
  have separate := accounted.separate
  have stored := accounted.stored
  rw [nobody] at separate stored
  refine ⟨⟨accounted.counted, accounted.limited, accounted.distinct, accounted.connected,
    accounted.unshared, accounted.listed, ?_, accounted.own, ?_, ?_, accounted.leaked.1, ?_⟩,
    slots, nonzero⟩
  · simpa [Machine.connections, connected, Main.pending] using accounted.served
  · simp only [Machine.blocks, Main.block, Option.toList_some, List.map_append, List.map_cons,
      List.map_nil]
    rw [← List.concat_eq_append]
    refine separate.concat fun member => ?_
    obtain ⟨block, old, same⟩ := List.mem_map.mp member
    exact other (stored block old) same
  · intro block member
    rcases List.mem_append.mp member with old | new
    · simp only [Function.update_of_ne (other (stored block old))]
      exact stored block old
    · simp only [Main.block, Option.toList_some, List.mem_singleton] at new
      rw [new]
      exact Function.update_self _ _ _
  · intro address member
    simp only [Function.update_of_ne (other (accounted.leaked.2 address member))]
    exact accounted.leaked.2 address member

theorem Sound.create (sound : Sound limit inherited machine) {new_socket new_sock : Nat}
    (creating : machine.main = .creating new_socket new_sock) :
    Sound limit inherited { machine with
      main := .accepting
      handlers := machine.handlers ++ [⟨new_socket, .starting new_sock⟩] } := by
  obtain ⟨accounted, slots, nonzero⟩ := sound
  have same : Machine.blocks { machine with
      main := .accepting
      handlers := machine.handlers ++ [⟨new_socket, .starting new_sock⟩] } = machine.blocks := by
    simp [Machine.blocks, creating, Main.block, Handler.block, Stage.block]
  have opened : Machine.directories { machine with
      main := .accepting
      handlers := machine.handlers ++ [⟨new_socket, .starting new_sock⟩] } =
      machine.directories := by
    simp [Machine.directories, Stage.directory]
  refine ⟨⟨?_, accounted.limited, accounted.distinct, accounted.connected, ?_, ?_, ?_, ?_, ?_, ?_,
    accounted.leaked⟩, slots, nonzero⟩
  · rw [opened]
    exact accounted.counted
  · rw [opened]
    exact accounted.unshared
  · rw [opened]
    exact accounted.listed
  · simpa [Machine.connections, creating, Main.pending] using accounted.served
  · intro handler member
    rcases List.mem_append.mp member with old | new
    · exact accounted.own handler old
    · rw [List.mem_singleton.mp new]
      nofun
  · rw [same]
    exact accounted.separate
  · rw [same]
    exact accounted.stored

/-- Without a thread nobody frees the block, and nobody ever uses the connection. -/
theorem Sound.createFailed (sound : Sound limit inherited machine) {new_socket new_sock : Nat}
    (creating : machine.main = .creating new_socket new_sock) :
    Sound limit inherited { machine with main := .accepting } := by
  obtain ⟨accounted, slots, nonzero⟩ := sound
  have separate := accounted.separate
  have stored := accounted.stored
  have last : machine.blocks = machine.handlers.filterMap Handler.block ++
      [(new_sock, new_socket)] := by
    simp [Machine.blocks, creating, Main.block]
  rw [last] at separate stored
  rw [List.map_append] at separate
  refine ⟨⟨accounted.counted, accounted.limited, accounted.distinct, accounted.connected,
    accounted.unshared, accounted.listed, ?_, accounted.own, ?_, ?_, accounted.leaked⟩, slots,
    nonzero⟩
  · refine List.Sublist.trans ?_ accounted.served
    simp [Machine.connections, Main.pending]
  · simpa [Machine.blocks, Main.block] using separate.of_append_left
  · intro block member
    refine stored block (List.mem_append_left _ ?_)
    simpa [Machine.blocks, Main.block] using member

theorem Sound.end (sound : Sound limit inherited machine) (cause : Option Cause) :
    Sound limit inherited { machine with ended := cause } := by
  obtain ⟨accounted, slots, nonzero⟩ := sound
  obtain ⟨counted, limited, distinct, connected, unshared, listed, served, own, separate, stored,
    leaked⟩ := accounted
  exact ⟨⟨counted, limited, distinct, connected, unshared, listed, served, own, separate, stored,
    leaked⟩, slots, nonzero⟩

theorem Sound.main (sound : Sound limit inherited machine)
    (step : MainStep limit machine next) : Sound limit inherited next := by
  cases step with
  | acceptZero | acceptFailed | mallocFailed => exact sound.end _
  | accept waiting free nonzero => exact sound.accept waiting free nonzero
  | malloc connected fresh => exact sound.malloc connected fresh
  | create stored => exact sound.create stored
  | createFailed stored => exact sound.createFailed stored

end Main

/-!
## The handlers
-/

section Handler

variable {machine : Machine} {front back : List Handler} {handler : Handler}

theorem blocks_split (present : machine.handlers = front ++ handler :: back) :
    machine.blocks = front.filterMap Handler.block ++
      (handler.block.toList ++ (back.filterMap Handler.block ++ machine.main.block.toList)) := by
  rw [Machine.blocks, present, filterMap_split, List.append_assoc, List.append_assoc]

theorem directories_split (present : machine.handlers = front ++ handler :: back) :
    machine.directories = front.filterMap (·.stage.directory) ++
      (handler.stage.directory.toList ++ back.filterMap (·.stage.directory)) := by
  rw [Machine.directories, present, filterMap_split]

theorem connections_split (present : machine.handlers = front ++ handler :: back)
    (shared : Shared) (stage : Stage) :
    Machine.connections { machine with
      shared, handlers := front ++ ⟨handler.connection, stage⟩ :: back } =
      machine.connections := by
  simp [Machine.connections, present]

theorem own_replaced (present : machine.handlers = front ++ handler :: back)
    (own : ∀ handler ∈ machine.handlers, ∀ fd ∈ handler.stage.descriptor, fd = handler.connection)
    {stage : Stage} (next : ∀ fd ∈ stage.descriptor, fd = handler.connection) :
    ∀ other ∈ front ++ ⟨handler.connection, stage⟩ :: back, ∀ fd ∈ other.stage.descriptor,
      fd = other.connection := by
  rw [present] at own
  intro other member
  rcases List.mem_append.mp member with before | later
  · exact own other (List.mem_append_left _ before)
  · rcases List.mem_cons.mp later with rfl | after
    · exact next
    · exact own other (List.mem_append_right _ (.tail _ after))

variable (sound : Sound limit inherited machine)
  (present : machine.handlers = front ++ handler :: back)

include sound present

/-- A step between the calls that take or give back a resource. -/
theorem Sound.quiet {stage : Stage} (block : stage.block = handler.stage.block)
    (directory : stage.directory = handler.stage.directory)
    (own : ∀ fd ∈ stage.descriptor, fd = handler.connection) :
    Sound limit inherited
      { machine with handlers := front ++ ⟨handler.connection, stage⟩ :: back } := by
  obtain ⟨accounted, slots, nonzero⟩ := sound
  have blocks : Machine.blocks { machine with
      handlers := front ++ ⟨handler.connection, stage⟩ :: back } = machine.blocks := by
    rw [blocks_split rfl, blocks_split present, Handler.block, block]
    rfl
  have directories : Machine.directories { machine with
      handlers := front ++ ⟨handler.connection, stage⟩ :: back } = machine.directories := by
    rw [directories_split rfl, directories_split present, directory]
  have connections := connections_split present machine.shared stage
  refine ⟨⟨?_, accounted.limited, accounted.distinct, accounted.connected, ?_, ?_, ?_,
    own_replaced present accounted.own own, ?_, ?_, accounted.leaked⟩, slots, nonzero⟩
  · rw [directories]
    exact accounted.counted
  · rw [directories]
    exact accounted.unshared
  · rw [directories]
    exact accounted.listed
  · rw [connections]
    exact accounted.served
  · rw [blocks]
    exact accounted.separate
  · rw [blocks]
    exact accounted.stored

theorem Sound.opendir {address fd p : Nat} {request : Request} (surroundings : Surroundings)
    (answering : handler.stage = .answering address fd request)
    (fresh : machine.shared.heap p = none) (free : machine.shared.table.lowestFree < limit) :
    Sound limit inherited { machine with
      shared := ⟨(machine.shared.table.allocate .directory).2,
        Function.update machine.shared.heap p (some .p), machine.shared.paths ++ [p]⟩
      handlers := front ++ ⟨handler.connection, .listing address fd request surroundings
        machine.shared.table.lowestFree⟩ :: back } := by
  obtain ⟨accounted, slots, nonzero⟩ := sound
  have kept {fd : Nat} {file : OpenFile} (opened : machine.shared.table.lookup fd = some file) :
      (machine.shared.table.allocate .directory).2.lookup fd = some file :=
    (DescriptorTable.lookup_allocate_of_ne _ (ne_of_lookup opened)).trans opened
  have other {address : Nat} {block : Block}
      (used : machine.shared.heap address = some block) : address ≠ p := by
    rintro rfl
    rw [fresh] at used
    cases used
  have fits := DescriptorTable.length_allocate_le slots free .directory
  have unlisted : handler.stage.directory = none := by
    rw [answering]
    rfl
  have old := directories_split present
  rw [unlisted, Option.toList_none, List.nil_append] at old
  have new : machine.shared.table.lowestFree ∉ machine.directories := fun member =>
    ne_of_lookup (accounted.listed _ member) rfl
  have directories : List.Perm (Machine.directories { machine with
      handlers := front ++ ⟨handler.connection, .listing address fd request surroundings
        machine.shared.table.lowestFree⟩ :: back })
      (machine.shared.table.lowestFree :: machine.directories) := by
    rw [directories_split rfl, old]
    exact List.perm_middle
  have blocks : Machine.blocks { machine with
      handlers := front ++ ⟨handler.connection, .listing address fd request surroundings
        machine.shared.table.lowestFree⟩ :: back } = machine.blocks := by
    rw [blocks_split rfl, blocks_split present, Handler.block, Handler.block, answering]
    rfl
  have own : ∀ fd' ∈ (Stage.listing address fd request surroundings
      machine.shared.table.lowestFree).descriptor, fd' = handler.connection := by
    intro fd' member
    refine accounted.own handler ?_ fd' ?_
    · rw [present]
      exact List.mem_append_right _ (.head _)
    · rw [answering]
      exact member
  refine ⟨⟨?_, (DescriptorTable.openCount_le_length _).trans fits, accounted.distinct,
    fun fd member => kept (accounted.connected fd member), ?_, ?_, ?_,
    own_replaced present accounted.own own, ?_, ?_, ?_, ?_⟩, fits, nonzero⟩
  · rw [DescriptorTable.openCount_allocate, accounted.counted]
    have length := directories.length_eq
    simp only [Machine.directories, List.length_cons] at length ⊢
    omega
  · exact directories.nodup_iff.mpr (List.nodup_cons.mpr ⟨new, accounted.unshared⟩)
  · intro dir member
    rcases List.mem_cons.mp (directories.mem_iff.mp member) with rfl | earlier
    · exact DescriptorTable.lookup_allocate _ _
    · exact kept (accounted.listed dir earlier)
  · rw [connections_split present]
    exact accounted.served
  · exact blocks ▸ accounted.separate
  · intro block member
    have before := accounted.stored block (blocks ▸ member)
    simp only [Function.update_of_ne (other before)]
    exact before
  · rw [← List.concat_eq_append]
    exact accounted.leaked.1.concat fun member => other (accounted.leaked.2 p member) rfl
  · intro path member
    rcases List.mem_append.mp member with earlier | last
    · simp only [Function.update_of_ne (other (accounted.leaked.2 path earlier))]
      exact accounted.leaked.2 path earlier
    · rw [List.mem_singleton.mp last]
      exact Function.update_self _ _ _

theorem Sound.closedir {address fd dir : Nat} {request : Request} {surroundings : Surroundings}
    (listing : handler.stage = .listing address fd request surroundings dir)
    (stored : List (Store Target)) (text : CString) :
    Sound limit inherited { machine with
      shared := { machine.shared with table := machine.shared.table.close dir }
      handlers := front ++ ⟨handler.connection, .replying address fd stored text⟩ :: back } := by
  obtain ⟨accounted, slots, nonzero⟩ := sound
  have old := directories_split present
  rw [listing] at old
  have before : List.Perm machine.directories (dir :: Machine.directories { machine with
      handlers := front ++ ⟨handler.connection, .replying address fd stored text⟩ :: back }) := by
    rw [old, directories_split rfl]
    exact List.perm_middle
  have opened : machine.shared.table.lookup dir = some .directory :=
    accounted.listed dir (before.mem_iff.mpr (.head _))
  have kept {fd : Nat} {file : OpenFile} (there : machine.shared.table.lookup fd = some file)
      (differs : fd ≠ dir) : (machine.shared.table.close dir).lookup fd = some file :=
    (DescriptorTable.lookup_close_of_ne differs).trans there
  have blocks : Machine.blocks { machine with
      handlers := front ++ ⟨handler.connection, .replying address fd stored text⟩ :: back } =
      machine.blocks := by
    rw [blocks_split rfl, blocks_split present, Handler.block, Handler.block, listing]
    rfl
  obtain ⟨gone, rest⟩ := List.nodup_cons.mp (before.nodup_iff.mp accounted.unshared)
  have counted := DescriptorTable.openCount_close opened
  have own : ∀ fd' ∈ (Stage.replying address fd stored text).descriptor, fd' = handler.connection := by
    intro fd' member
    refine accounted.own handler ?_ fd' ?_
    · rw [present]
      exact List.mem_append_right _ (.head _)
    · rw [listing]
      exact member
  refine ⟨⟨?_, ?_, accounted.distinct, ?_, rest, ?_, ?_, own_replaced present accounted.own own,
    ?_, ?_, accounted.leaked⟩, (DescriptorTable.length_close _ _).le.trans slots, nonzero⟩
  · rw [accounted.counted, before.length_eq, List.length_cons] at counted
    simp only [Machine.directories] at counted ⊢
    omega
  · have bound := accounted.limited
    change (machine.shared.table.close dir).openCount ≤ limit
    omega
  · intro fd member
    refine kept (accounted.connected fd member) ?_
    rintro rfl
    have same := (accounted.connected fd member).symm.trans opened
    cases same
  · intro other member
    refine kept (accounted.listed other (before.mem_iff.mpr (.tail _ member))) ?_
    rintro rfl
    exact gone member
  · rw [connections_split present]
    exact accounted.served
  · exact blocks ▸ accounted.separate
  · exact fun block member => accounted.stored block (blocks ▸ member)

theorem Sound.free {address fd : Nat} {kept : List (Store Target)} {text : CString}
    (freeing : handler.stage = .freeing address fd kept text) :
    Sound limit inherited { machine with
      shared := { machine.shared with heap := Function.update machine.shared.heap address none }
      handlers := front ++ ⟨handler.connection, .returned kept text⟩ :: back } := by
  obtain ⟨accounted, slots, nonzero⟩ := sound
  have old := blocks_split present
  have block : handler.block = some (address, handler.connection) := by
    rw [Handler.block, freeing]
    rfl
  rw [block] at old
  have before : List.Perm machine.blocks ((address, handler.connection) ::
      Machine.blocks { machine with
        handlers := front ++ ⟨handler.connection, .returned kept text⟩ :: back }) := by
    rw [old, blocks_split rfl]
    exact List.perm_middle
  have held : machine.shared.heap address = some (.new_sock handler.connection) :=
    accounted.stored _ (before.mem_iff.mpr (.head _))
  have separate := (before.map Prod.fst).nodup_iff.mp accounted.separate
  rw [List.map_cons, List.nodup_cons] at separate
  have directories : Machine.directories { machine with
      handlers := front ++ ⟨handler.connection, .returned kept text⟩ :: back } =
      machine.directories := by
    rw [directories_split rfl, directories_split present, freeing]
    rfl
  refine ⟨⟨?_, accounted.limited, accounted.distinct, accounted.connected, ?_, ?_, ?_,
    own_replaced present accounted.own nofun, separate.2, ?_, accounted.leaked.1, ?_⟩, slots,
    nonzero⟩
  · exact directories ▸ accounted.counted
  · exact directories ▸ accounted.unshared
  · exact directories ▸ accounted.listed
  · rw [connections_split present]
    exact accounted.served
  · intro other member
    have differs : other.1 ≠ address := fun same =>
      separate.1 (List.mem_map.mpr ⟨other, member, same⟩)
    simp only [Function.update_of_ne differs]
    exact accounted.stored other (before.mem_iff.mpr (.tail _ member))
  · intro path member
    have differs : path ≠ address := by
      rintro rfl
      have same := (accounted.leaked.2 path member).symm.trans held
      cases same
    simp only [Function.update_of_ne differs]
    exact accounted.leaked.2 path member

/-- The descriptor that a handler reads from its block is that of its connection. -/
theorem Sound.sock {address descriptor : Nat} (starting : handler.stage = .starting address)
    (stored : machine.shared.heap address = some (.new_sock descriptor)) :
    descriptor = handler.connection := by
  have block : handler.block = some (address, handler.connection) := by
    rw [Handler.block, starting]
    rfl
  have member : (address, handler.connection) ∈ machine.blocks := by
    rw [blocks_split present, block]
    exact List.mem_append_right _ (.head _)
  have held := sound.accounted.stored _ member
  rw [stored] at held
  cases held
  rfl

theorem Sound.handled {shared : Shared} {stage : Stage}
    (step : HandlerStep limit machine.shared handler.stage shared (.inl stage)) :
    Sound limit inherited
      { machine with shared, handlers := front ++ ⟨handler.connection, stage⟩ :: back } := by
  have own := sound.accounted.own handler (present ▸ List.mem_append_right _ (.head _))
  generalize reached : handler.stage = current at step
  rw [reached] at own
  cases step with
  | sock stored =>
      have same := sound.sock present reached stored
      exact sound.quiet present (by rw [reached]; rfl) (by rw [reached]; rfl)
        (by simpa [Stage.descriptor] using same)
  | recv request => exact sound.quiet present (by rw [reached]; rfl) (by rw [reached]; rfl) own
  | skips plain answered =>
      exact sound.quiet present (by rw [reached]; rfl) (by rw [reached]; rfl) own
  | write => exact sound.quiet present (by rw [reached]; rfl) (by rw [reached]; rfl) own
  | opendir asked answered fresh free => exact sound.opendir present _ reached fresh free
  | closedir answered => exact sound.closedir present reached _ _
  | free => exact sound.free present reached

end Handler

/-!
## Runs
-/

theorem Sound.step {machine next : Machine} (sound : Sound limit inherited machine)
    (step : Step limit machine next) : Sound limit inherited next := by
  cases step with
  | main running step => exact sound.main step
  | handler running present step => exact sound.handled present step
  | ends running present step => exact sound.end _

theorem sound_of_reachable {machine : Machine} (fits : inherited.slots.length ≤ limit)
    (reachable : Reachable limit inherited machine) : Sound limit inherited machine := by
  induction reachable with
  | refl => exact sound_start fits
  | tail _ step ih => exact ih.step step

/-- In every run the connections that were ever accepted use up the descriptors, as none is
ever closed, and when they and the directories being listed have used them up, the next
`accept` ends the process with all of its threads. -/
theorem connections_accounted {machine : Machine} (fits : inherited.slots.length ≤ limit)
    (reachable : Reachable limit inherited machine) :
    Accounted limit inherited machine ∧
      (machine.main = .accepting →
        limit ≤ inherited.openCount + machine.accepted.length + machine.directories.length →
        ∀ next, MainStep limit machine next → next.ended = some .exitFailure) := by
  have sound := sound_of_reachable fits reachable
  refine ⟨sound.accounted, fun waiting full next step => ?_⟩
  have counted := sound.accounted.counted
  have used : machine.shared.table.slots.length ≤ machine.shared.table.openCount := by
    have slots := sound.slots
    omega
  have last := DescriptorTable.lowestFree_of_full used
  have bound := machine.shared.table.openCount_le_length
  have none_free : limit ≤ machine.shared.table.lowestFree := by omega
  cases step with
  | acceptFailed => rfl
  | accept waiting free | acceptZero waiting free => omega
  | malloc connected | mallocFailed connected =>
      rw [waiting] at connected
      cases connected
  | create stored | createFailed stored =>
      rw [waiting] at stored
      cases stored

/-- The standard streams and the listening socket. -/
def listeningTable : DescriptorTable OpenFile :=
  ⟨[some .other, some .other, some .other, some .other]⟩

/-- The process behind its first connection. -/
def connected : Machine where
  shared := ⟨⟨[some .other, some .other, some .other, some .other, some .connection]⟩,
    Function.update (fun _ => none) 0 (some (.new_sock 4)), []⟩
  main := .accepting
  handlers := [⟨4, .starting 0⟩]
  accepted := [4]
  ended := none

theorem connected_reachable : Reachable 6 listeningTable connected := by
  have accept := Step.main rfl
    (@MainStep.accept 6 (.start listeningTable) rfl (by decide) (by decide))
  have malloc := Step.main rfl (@MainStep.malloc 6
    { Machine.start listeningTable with
      shared := { (Machine.start listeningTable).shared with
        table := (listeningTable.allocate .connection).2 }
      main := .storing 4
      accepted := [4] } 4 0 rfl rfl)
  have create := Step.main rfl (@MainStep.create 6
    { connected with main := .creating 4 0, handlers := [] } 4 0 rfl)
  exact .tail (.tail (.single accept) malloc) create

def getRoot : Request := ⟨ascii "GET / HTTP/1.1\n", by decide, by decide⟩

def emptyDirectory : Surroundings where
  method := ⟨.zeroed 256, []⟩
  url := ⟨.zeroed 256, []⟩
  protocol := ⟨.zeroed 256, []⟩
  buff_send := ⟨.zeroed 512, []⟩
  malloc size := some (List.replicate size 0)
  directory := some []

/-- The process while its only handler lists the directory. -/
def listing : Machine where
  shared := ⟨⟨[some .other, some .other, some .other, some .other, some .connection,
    some .directory]⟩, Function.update connected.shared.heap 1 (some .p), [1]⟩
  main := .accepting
  handlers := [⟨4, .listing 0 4 getRoot emptyDirectory 5⟩]
  accepted := [4]
  ended := none

theorem listing_reachable : Reachable 6 listeningTable listing := by
  have sock := @Step.handler 6 connected [] [] ⟨4, .starting 0⟩ _ _ rfl rfl
    (@HandlerStep.sock 6 connected.shared 0 4 rfl)
  have recv := @Step.handler 6 { connected with handlers := [⟨4, .receiving 0 4⟩] } [] []
    ⟨4, .receiving 0 4⟩ _ _ rfl rfl (@HandlerStep.recv 6 connected.shared 0 4 getRoot)
  have opendir := @Step.handler 6 { connected with handlers := [⟨4, .answering 0 4 getRoot⟩] }
    [] [] ⟨4, .answering 0 4 getRoot⟩ _ _ rfl rfl
    (@HandlerStep.opendir 6 connected.shared 0 4 1 getRoot emptyDirectory (page [] []) rfl rfl rfl
      (by decide))
  exact ((connected_reachable.tail sock).tail recv).tail opendir

/-- A process that may open two descriptors more than it has inherited, and has both of
them open: one is a connection, and one a directory. -/
theorem connections_accounted_full :
    Accounted 6 listeningTable listing ∧ listing.directories = [5] ∧ listing.shared.paths = [1] ∧
      ∀ next, MainStep 6 listing next → next.ended = some .exitFailure := by
  have both := connections_accounted (show listeningTable.slots.length ≤ 6 by decide)
    listing_reachable
  exact ⟨both.1, rfl, rfl, both.2 rfl (by decide)⟩

/-!
## The threads without their resources
-/

/-- What the process looks like when nobody sees the resources. -/
def Stage.thread : Stage → Thread
  | .starting _ | .receiving _ _ => .receiving
  | .answering _ _ request | .listing _ _ request _ _ => .answering request
  | .replying _ _ stored text => .replying stored text
  | .freeing _ _ stored text | .returned stored text => .returned stored text

def Machine.process (machine : Machine) : Process Thread Cause :=
  ⟨machine.handlers.map (·.stage.thread), machine.ended⟩

/-- A step of a handler is one of its calls, or does not show. -/
theorem HandlerStep.act {shared next : Shared} {stage : Stage} {result : Stage ⊕ Cause}
    (step : HandlerStep limit shared stage next result) :
    result.map Stage.thread id = .inl stage.thread ∨
      ∃ action, Http.act stage.thread action = some (result.map Stage.thread id) := by
  cases step with
  | sock | free | opendir => exact .inl rfl
  | recv request => exact .inr ⟨.recv (.request request), rfl⟩
  | @recvFailed address fd result missing =>
      refine .inr ⟨.recv result, ?_⟩
      cases result with
      | failed | closed => rfl
      | request request => exact absurd rfl (missing request)
  | @faults address fd request surroundings outside =>
      exact .inr ⟨.answer surroundings true, if_neg outside⟩
  | @crashes address fd request surroundings answered
  | @exits address fd request surroundings answered
  | @skips address fd request surroundings text plain answered
  | @closedir address fd dir request surroundings text answered =>
      refine .inr ⟨.answer surroundings false, ?_⟩
      simp only [Stage.thread, Http.act, answered]
      rfl
  | faultsLater outside =>
      cases stage with
      | listing address fd request surroundings dir =>
          exact .inr ⟨.answer surroundings true, if_neg outside⟩
      | replying | freeing | returned => exact .inr ⟨.fault, if_neg outside⟩
      | starting | receiving | answering => exact absurd allInside_nil outside
  | write => exact .inr ⟨.write true, rfl⟩
  | writeFailed => exact .inr ⟨.write false, rfl⟩

theorem acceptLoop_of_pos {fd : Nat} (positive : fd ≠ 0) (allocated created : Bool) :
    acceptLoop ⟨fd, allocated, created⟩ =
      if allocated then .inl created else .inr .killed := by
  have nonzero : (fd : Int) ≠ 0 := by omega
  have nonnegative : ¬ (fd : Int) < 0 := by omega
  rw [acceptLoop]
  simp only [nonzero, nonnegative, if_false]

theorem MainStep.main {machine next : Machine} (sound : Sound limit inherited machine)
    (running : machine.ended = none) (step : MainStep limit machine next) :
    next.process = machine.process ∨
      ∃ event, server.Step machine.process event next.process := by
  have pending {fd : Nat} (waiting : machine.main.pending = some fd) : fd ≠ 0 := by
    refine sound.nonzero fd (sound.accounted.served.subset ?_)
    rw [Machine.connections, waiting]
    exact List.mem_append_right _ (.head _)
  have process : machine.process = ⟨machine.handlers.map (·.stage.thread), none⟩ := by
    rw [Machine.process, running]
  cases step with
  | accept | malloc | createFailed => exact .inl rfl
  | acceptZero =>
      rw [process]
      exact .inr ⟨.main ⟨0, true, true⟩, .stop rfl⟩
  | acceptFailed =>
      rw [process]
      exact .inr ⟨.main ⟨-1, true, true⟩, .stop rfl⟩
  | @mallocFailed new_socket connected =>
      rw [process]
      refine .inr ⟨.main ⟨new_socket, false, true⟩, .stop ?_⟩
      exact acceptLoop_of_pos (pending (by rw [connected]; rfl)) false true
  | @create new_socket new_sock stored =>
      have spawned := acceptLoop_of_pos (pending (by rw [stored]; rfl)) true true
      have threads : Machine.process { machine with
          main := .accepting
          handlers := machine.handlers ++ [⟨new_socket, .starting new_sock⟩] } =
          ⟨machine.handlers.map (·.stage.thread) ++ [.receiving], none⟩ := by
        rw [Machine.process, List.map_append, running]
        rfl
      rw [process, threads]
      exact .inr ⟨.main ⟨new_socket, true, true⟩, .spawn spawned⟩

theorem Step.projects {machine next : Machine} (sound : Sound limit inherited machine)
    (step : Step limit machine next) :
    next.process = machine.process ∨
      ∃ event, server.Step machine.process event next.process := by
  cases step with
  | main running step => exact step.main sound running
  | @handler front back handler shared stage running present step =>
      have before : machine.process = ⟨front.map (·.stage.thread) ++ handler.stage.thread ::
          back.map (·.stage.thread), none⟩ := by
        rw [Machine.process, running, present, List.map_append, List.map_cons]
      have after : Machine.process
          { machine with shared, handlers := front ++ ⟨handler.connection, stage⟩ :: back } =
          ⟨front.map (·.stage.thread) ++ stage.thread :: back.map (·.stage.thread), none⟩ := by
        rw [Machine.process, running, List.map_append, List.map_cons]
      rw [before, after]
      rcases step.act with hidden | ⟨action, acted⟩
      · have same : stage.thread = handler.stage.thread := Sum.inl.inj hidden
        rw [same]
        exact .inl rfl
      · refine .inr ⟨.thread front.length action, ?_⟩
        have moved := @Threaded.Step.act _ _ _ _ server
          (front.map (·.stage.thread) ++ handler.stage.thread :: back.map (·.stage.thread))
          front.length handler.stage.thread stage.thread action (by simp) acted
        simpa using moved
  | @ends front back handler shared cause running present step =>
      rcases step.act with hidden | ⟨action, acted⟩
      · cases hidden
      · refine .inr ⟨.thread front.length action, ?_⟩
        have process : machine.process = ⟨machine.handlers.map (·.stage.thread), none⟩ := by
          rw [Machine.process, running]
        rw [process]
        exact .exit (by simp [present]) acted

/-- Without its resources, every run is one of the process whose handlers take each answer
in one step. -/
theorem run_process {machine : Machine} (fits : inherited.slots.length ≤ limit)
    (reachable : Reachable limit inherited machine) :
    ∃ events, server.Run (fun _ _ => True) events machine.process := by
  induction reachable with
  | refl => exact ⟨[], .start⟩
  | tail earlier step ih =>
      obtain ⟨events, run⟩ := ih
      rcases step.projects (sound_of_reachable fits earlier) with same | ⟨event, moved⟩
      · exact ⟨events, same ▸ run⟩
      · exact ⟨events ++ [event], run.tail event trivial moved⟩

end NetworkServices.Http.Resources
