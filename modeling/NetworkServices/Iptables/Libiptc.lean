import NetworkServices.Iptables.Command

/-! The surroundings of the program of `iptcmod.c`: its memory, and `libiptc`, which is a
parameter. A call of it that succeeds changes the copy of the table behind the handle, or at last
the kernel, in a way of its own. -/

set_option autoImplicit false

namespace NetworkServices.Iptables.Iptcmod

variable {Tables Copy : Type}

structure Libiptc (Tables Copy : Type) where
  init : CString → Tables → Option Copy
  is_chain : CString → Copy → Bool
  builtin : CString → Copy → Bool
  delete_num_entry : CString → UInt32 → Copy → Option Copy
  create_chain : CString → Copy → Option Copy
  set_policy : CString → CString → Copy → Option Copy
  commit : Copy → Tables → Option Tables
  /-- Whether `commit` leaves the handle open. The comments of the program expect that it does
  not, and the program calls `iptc_free` behind it. -/
  keepsHandle : Bool

/-- What a request that succeeds makes of the copy of a table. -/
def Libiptc.edit (lib : Libiptc Tables Copy) (copy : Copy) : Request → Option Copy
  | .is_chain chain => chain.bind fun chain => if lib.is_chain chain copy then copy else none
  | .builtin chain => chain.bind fun chain => if lib.builtin chain copy then copy else none
  | .delete_num_entry chain rulenum => do lib.delete_num_entry (← chain) (← rulenum) copy
  | .create_chain chain => do lib.create_chain (← chain) copy
  | .set_policy chain policy => do lib.set_policy (← chain) policy copy
  | .commit => copy

/-- What a rule asks for, in front of the commit. -/
def edits (rule : Rule Opcode) : List Request :=
  match rule.operation with
  | .none => []
  | .deleteRule =>
      [.is_chain rule.chain, .delete_num_entry rule.chain (rule.ruleNum.map Int32.toUInt32)]
  | .newChain => [.create_chain rule.chain]
  | .policyAccept =>
      [.is_chain rule.chain, .builtin rule.chain, .set_policy rule.chain (ascii "ACCEPT")]
  | .policyDrop =>
      [.is_chain rule.chain, .builtin rule.chain, .set_policy rule.chain (ascii "DROP")]

/-- The tables that a rule makes of those of the kernel, if all that it asks for succeeds. -/
def Libiptc.carryOut (lib : Libiptc Tables Copy) (rule : Rule Opcode) (tables : Tables) :
    Option Tables := do
  let copy ← lib.init (← rule.table) tables
  let copy ← (edits rule).foldlM lib.edit copy
  lib.commit copy tables

/-- The blocks in use, what `fprintf` has printed, the tables of the kernel, those that `commit`
has stored there one after another, and the open handle with its copy of a table. -/
structure World (Tables Copy : Type) where
  blocks : List Block := []
  printed : List (Stream × CString) := []
  tables : Tables
  commits : List Tables := []
  opened : Option (Handle × Copy) := none

def World.HasOpen (world : World Tables Copy) (h : Handle) : Prop :=
  ∃ copy, world.opened = some (h, copy)

/-- Every argument of a request has a value. -/
def Request.Given : Request → Prop
  | .is_chain chain | .builtin chain | .create_chain chain | .set_policy chain _ => chain.isSome
  | .delete_num_entry chain rulenum => chain.isSome ∧ rulenum.isSome
  | .commit => True

/-- The world after a request that has succeeded. Only `commit` changes the tables. -/
def Libiptc.fulfil (lib : Libiptc Tables Copy) (world : World Tables Copy) (request : Request) :
    Option (World Tables Copy) :=
  world.opened.bind fun (h, copy) =>
    if request = .commit then
      (lib.commit copy world.tables).map fun tables =>
        { world with
          tables
          commits := world.commits ++ [tables]
          opened := if lib.keepsHandle then some (h, copy) else none }
    else (lib.edit copy request).map fun copy => { world with opened := some (h, copy) }

/-- A block is freed once, a handle is used between `iptc_init` and `commit` only, and nothing is
passed that has no value. What `iptc_free` gets is open where `commit` keeps handles. A call of
`libiptc` may fail for reasons of its own, and changes nothing then. -/
def Libiptc.interface (lib : Libiptc Tables Copy) : Interface Call Answer (World Tables Copy) where
  may world request := match request with
    | .free block => block ∈ world.blocks
    | .iptc_init table => table.isSome ∧ world.opened = none
    | .iptc request h => request.Given ∧ world.HasOpen h
    | .iptc_free h => world.HasOpen h ↔ lib.keepsHandle = true
    | _ => True
  promise world request := match request with
    | .malloc _ => fun answer => ∀ block ∈ answer, block ∉ world.blocks
    | .iptc_init table => fun answer =>
        answer.isSome → (table.bind (lib.init · world.tables)).isSome
    | .iptc request _ => fun answer => answer = true → (lib.fulfil world request).isSome
    | _ => fun _ => True
  after world request := match request with
    | .malloc _ => fun answer => { world with blocks := answer.toList ++ world.blocks }
    | .free block => fun _ => { world with blocks := world.blocks.erase block }
    | .fprintf stream text => fun _ => { world with printed := world.printed ++ [(stream, text)] }
    | .iptc_init table => fun answer =>
        { world with opened := do return (← answer, ← lib.init (← table) world.tables) }
    | .iptc request _ => fun answer =>
        if answer then (lib.fulfil world request).getD world else world
    | .iptc_free _ => fun _ => { world with opened := none }
    | _ => fun _ => world

/-- What the library answers where nothing but its own tables makes a call fail. -/
def Libiptc.answer (lib : Libiptc Tables Copy) (world : World Tables Copy) :
    (request : Call) → Answer request
  | .malloc _ => if world.blocks.length + 1 ∉ world.blocks then some (world.blocks.length + 1)
      else none
  | .free _ | .fprintf _ _ | .perror _ | .iptc_free _ => ()
  | .iptc_strerror => []
  | .iptc_init table => (table.bind (lib.init · world.tables)).map fun _ => 1
  | .iptc request _ => (lib.fulfil world request).isSome

theorem Libiptc.answer_honest (lib : Libiptc Tables Copy) (world : World Tables Copy)
    (request : Call) : lib.interface.promise world request (lib.answer world request) := by
  cases request with
  | malloc size =>
      intro block member
      dsimp only [Libiptc.answer] at member
      split at member
      · cases member
        assumption
      · cases member
  | iptc_init table =>
      intro opened
      rwa [Libiptc.answer, Option.isSome_map] at opened
  | iptc request h => exact fun fulfilled => fulfilled
  | _ => trivial

/-- A library whose tables are the names of the chains. -/
def namesOnly : Libiptc (List CString) (List CString) where
  init _ names := some names
  is_chain chain names := names.contains chain
  builtin chain _ := chain = ascii "INPUT"
  delete_num_entry _ _ names := some names
  create_chain chain names := if names.contains chain then none else some (names ++ [chain])
  set_policy _ _ names := some names
  commit names _ := some names
  keepsHandle := true

end NetworkServices.Iptables.Iptcmod
