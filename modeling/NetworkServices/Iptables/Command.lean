import NetworkServices.Foundation.Interaction
import NetworkServices.Iptables.Iptcmod

/-! The program of `iptcmod.c` with the calls it makes: the blocks that `parse` allocates, and
the library `libiptc`, through whose handle the rules of the kernel are changed. -/

set_option autoImplicit false

namespace NetworkServices.Iptables.Iptcmod

/-- The address of a block that `malloc` returned. -/
abbrev Block := Nat

/-- `struct xtc_handle *`. -/
abbrev Handle := Nat

inductive Stream where
  | stdout
  | stderr
  deriving DecidableEq

/-- The calls of `libiptc` that work on a handle and whose result is only tested. A null pointer
is `none`, and so is a `rule_num` without a value. -/
inductive Request where
  | is_chain (chain : Option CString)
  | builtin (chain : Option CString)
  | delete_num_entry (chain : Option CString) (rulenum : Option UInt32)
  | create_chain (chain : Option CString)
  | set_policy (chain : Option CString) (policy : CString)
  | commit
  deriving DecidableEq

inductive Call where
  | malloc (size : Nat)
  | free (block : Block)
  | fprintf (stream : Stream) (text : CString)
  | perror (text : CString)
  | iptc_strerror
  | iptc_init (table : Option CString)
  | iptc (request : Request) (h : Handle)
  | iptc_free (h : Handle)
  deriving DecidableEq

/-- What the calls return. Of a result that is only tested it says whether it is not zero. -/
abbrev Answer : Call → Type
  | .malloc _ => Option Block
  | .free _ | .fprintf _ _ | .perror _ | .iptc_free _ => Unit
  | .iptc_strerror => CString
  | .iptc_init _ => Option Handle
  | .iptc _ _ => Bool

abbrev Process := Program Call Answer

def fprintf (stream : Stream) (text : CString) : Process Unit :=
  .invoke (Call.fprintf stream text)

def free (block : Block) : Process Unit := .invoke (Call.free block)

structure Text where
  pointer : Block
  text : CString
  deriving DecidableEq

/-- A `struct rule` in its block. -/
structure Allocated (Opcode : Type) where
  block : Block
  operation : Opcode
  chain : Option Text
  table : Option Text
  ruleNum : Option Int32
  deriving DecidableEq

def Allocated.rule {Opcode : Type} (r : Allocated Opcode) : Rule Opcode where
  operation := r.operation
  chain := r.chain.map Text.text
  table := r.table.map Text.text
  ruleNum := r.ruleNum

def s_malloc (size : Nat) : Process Block :=
  .call (.malloc size) fun
    | some ptr => pure ptr
    | none => do
        fprintf .stderr (ascii "malloc() failed!\n")
        .exit .failure

def s_free : Option Text → Process Unit
  | some ptr => free ptr.pointer
  | none => pure ()

def free_rule {Opcode : Type} : Option (Allocated Opcode) → Process Unit
  | some r => do
      s_free r.chain
      s_free r.table
      free r.block
  | none => pure ()

/-- `ptr = s_malloc(strlen(*argv) + 1); strcpy(ptr, *argv);` -/
def copy (arg : CString) : Process Text := do
  let ptr ← s_malloc (arg.length + 1)
  return ⟨ptr, arg⟩

/-- The error flag and the structure behind the loop. -/
def parse_error {Opcode : Type} (str : CString) (r : Allocated Opcode) :
    Process (Bool × Allocated Opcode) := do
  fprintf .stderr str
  return (true, r)

/-- The loop `while (*argv)`. -/
def parseArguments : Allocated Opcode → List CString → Process (Bool × Allocated Opcode)
  | r, [] => return (false, r)
  | r, arg :: rest =>
      if arg = ascii "-t" then
        match rest with
        | [] => parse_error (ascii "Expecting <table> after -t\n") r
        | table :: rest =>
            if beginsWithDash table then parse_error (ascii "Expecting <table> after -t\n") r
            else if r.table ≠ none then
              parse_error (ascii "Table can be specified only once.\n") r
            else do
              let ptr ← copy table
              parseArguments { r with table := some ptr } rest
      else if arg = ascii "-N" then
        if r.operation ≠ .none then parse_error (ascii "Can't use -N with other option.\n") r
        else
          match rest with
          | [] => parse_error (ascii "Expecting <chain> after -N\n") r
          | chain :: rest =>
              if beginsWithDash chain then parse_error (ascii "Expecting <chain> after -N\n") r
              else do
                let ptr ← copy chain
                parseArguments { r with chain := some ptr, operation := .newChain } rest
      else if arg = ascii "-D" then
        if r.operation ≠ .none then parse_error (ascii "Can't use -D with other option.\n") r
        else
          match rest with
          | [] => parse_error (ascii "Expecting <chain> after -D\n") r
          | chain :: rest =>
              if beginsWithDash chain then parse_error (ascii "Expecting <chain> after -D\n") r
              else do
                let ptr ← copy chain
                let r := { r with chain := some ptr }
                match rest with
                | [] => parse_error (ascii "Expecting <rule number> after -D <chain>\n") r
                | number :: rest =>
                    if beginsWithDash number then
                      parse_error (ascii "Expecting <rule number> after -D <chain>\n") r
                    else
                      let r := { r with ruleNum := some (atoi number - 1) }
                      if atoi number - 1 < 0 then parse_error (ascii "Invalid <rule number>\n") r
                      else parseArguments { r with operation := .deleteRule } rest
      else if arg = ascii "-P" then
        if r.operation ≠ .none then parse_error (ascii "Can't use -P with other option.\n") r
        else
          match rest with
          | [] => parse_error (ascii "Expecting <chain> after -P\n") r
          | chain :: rest =>
              if beginsWithDash chain then parse_error (ascii "Expecting <chain> after -P\n") r
              else do
                let ptr ← copy chain
                let r := { r with chain := some ptr }
                match rest with
                | [] =>
                    parse_error
                      (ascii "Expecting <policy type - ACCEPT or DROP> after -P <chain>\n") r
                | policy :: rest =>
                    if beginsWithDash policy then
                      parse_error
                        (ascii "Expecting <policy type - ACCEPT or DROP> after -P <chain>\n") r
                    else if policy = ascii "ACCEPT" then
                      parseArguments { r with operation := .policyAccept } rest
                    else if policy = ascii "DROP" then
                      parseArguments { r with operation := .policyDrop } rest
                    else parse_error (ascii "Expecting ACCEPT or DROP\n") r
      else if arg = ascii "-h" then do
        fprintf .stdout helpText
        free_rule (some r)
        .exit .success
      else parse_error (unknownOption arg) r

/-- `sizeof(struct rule)` -/
def RULE_SIZE : Nat := 32

/-- The two checks behind the loop, which are not made after an error. -/
def require (error missing : Bool) (message : CString) : Process Bool :=
  if !error && missing then do
    fprintf .stderr message
    return true
  else return error

/-- `parse`, with the blocks that it allocates and frees. -/
def parseRule (argv : List CString) : Process (Option (Allocated Opcode)) :=
  if argv.length < 2 then do
    fprintf .stderr (invalidArguments argv)
    return none
  else do
    let block ← s_malloc RULE_SIZE
    let (error, r) ← parseArguments ⟨block, .none, none, none, none⟩ argv.tail
    let error ← require error (r.operation = .none) (ascii "No option specified!\n")
    let error ← require error (r.table = none) (ascii "No table specified!\n")
    if error then do
      free_rule (some r)
      return none
    else return some r

/-- What is printed before `exit(EXIT_FAILURE)` with the error of the library. -/
def failWithError (front back : CString) : Process Unit := do
  let error ← .invoke Call.iptc_strerror
  fprintf .stderr (front ++ error ++ back)
  .exit .failure

def failWithPerror (text : CString) : Process Unit := do
  .invoke (Call.perror text)
  .exit .failure

/-- The end of the four functions that change the table. -/
def commit (h : Handle) : Process Unit :=
  .call (.iptc .commit h) fun retval =>
    if retval then pure () else failWithError (ascii "iptc_commit(): ") (ascii "!\n")

def Allocated.chainText {Opcode : Type} (r : Allocated Opcode) : Option CString :=
  r.chain.map Text.text

def Allocated.tableText {Opcode : Type} (r : Allocated Opcode) : Option CString :=
  r.table.map Text.text

def delete_rule {Opcode : Type} (h : Handle) (r : Allocated Opcode) : Process Unit :=
  .call (.iptc (.is_chain r.chainText) h) fun retval =>
    if retval then
      .call (.iptc (.delete_num_entry r.chainText (r.ruleNum.map Int32.toUInt32)) h) fun retval =>
        if retval then commit h
        else failWithError (ascii "iptc_delete_num_entry(): ") (ascii "\n")
    else do
      fprintf .stderr (ascii "Chain '" ++ r.chainText.getD [] ++
        ascii "' does not exist in table '" ++ r.tableText.getD [] ++ ascii "'!\n")
      .exit .failure

def create_chain {Opcode : Type} (h : Handle) (r : Allocated Opcode) : Process Unit :=
  .call (.iptc (.create_chain r.chainText) h) fun retval =>
    if retval then commit h
    else failWithError (ascii "iptc_delete_num_entry(): ") (ascii "\n")

/-- `policy_accept` and `policy_drop`, which differ in the label. -/
def setPolicy (label : CString) (h : Handle) (r : Allocated Opcode) : Process Unit :=
  .call (.iptc (.is_chain r.chainText) h) fun retval =>
    if retval then
      .call (.iptc (.builtin r.chainText) h) fun retval =>
        if retval then
          .call (.iptc (.set_policy r.chainText label) h) fun retval =>
            if retval then commit h else failWithPerror (ascii "iptc_set_policy")
        else do
          fprintf .stderr (ascii "chain is not builtin!")
          failWithPerror (ascii "iptc_builtin")
    else failWithPerror (ascii "iptc_is_chain")

def policy_accept : Handle → Allocated Opcode → Process Unit := setPolicy (ascii "ACCEPT")

def policy_drop : Handle → Allocated Opcode → Process Unit := setPolicy (ascii "DROP")

/-- The branches of `main`, of which `NEW_CHAIN` has two. -/
def perform (h : Handle) (r : Allocated Opcode) : Process Unit :=
  if r.operation = .deleteRule then delete_rule h r
  else if r.operation = .newChain then create_chain h r
  else if r.operation = .newChain then create_chain h r
  else if r.operation = .policyAccept then policy_accept h r
  else if r.operation = .policyDrop then policy_drop h r
  else pure ()

def main (argv : List CString) : Process Unit := do
  match ← parseRule argv with
  | none => .exit .failure
  | some r =>
      .call (.iptc_init r.tableText) fun
        | none => failWithError (ascii "iptc_init(): ") (ascii "\n")
        | some h => do
            perform h r
            free_rule (some r)
            .invoke (Call.iptc_free h)
            .exit .success

end NetworkServices.Iptables.Iptcmod
