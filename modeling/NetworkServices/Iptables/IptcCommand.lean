import NetworkServices.Iptables.Command
import NetworkServices.Iptables.Iptc

/-! The program of `iptc.c` with the calls it makes. The functions `s_malloc`, `parse_error`,
`free_rule`, `delete_rule` and `create_chain` are written alike in both files. -/

set_option autoImplicit false

namespace NetworkServices.Iptables.Iptc

open Iptcmod (Allocated commit copy create_chain delete_rule failWithError
  fprintf free_rule parse_error require s_malloc RULE_SIZE)

/-- The loop `while (*argv)`. -/
def parseArguments : Allocated Opcode → List CString → Iptcmod.Process (Bool × Allocated Opcode)
  | r, [] => return (false, r)
  | r, arg :: rest =>
      if arg = ascii "-t" then
        match rest with
        | [] => parse_error (ascii "Expecting <table> after -t\n") r
        | table :: rest =>
            if beginsWithDash table then parse_error (ascii "Expecting <table> after -t\n") r
            else if r.table ≠ none then
              parse_error (ascii "Table can be specified only once.\n") r
            else do
              let ptr ← copy table
              parseArguments { r with table := some ptr } rest
      else if arg = ascii "-N" then
        if r.operation ≠ .none then parse_error (ascii "Can't use -N with other option.\n") r
        else
          match rest with
          | [] => parse_error (ascii "Expecting <chain> after -N\n") r
          | chain :: rest =>
              if beginsWithDash chain then parse_error (ascii "Expecting <chain> after -N\n") r
              else do
                let ptr ← copy chain
                parseArguments { r with chain := some ptr, operation := .newChain } rest
      else if arg = ascii "-D" then
        if r.operation ≠ .none then parse_error (ascii "Can't use -D with other option.\n") r
        else
          match rest with
          | [] => parse_error (ascii "Expecting <chain> after -D\n") r
          | chain :: rest =>
              if beginsWithDash chain then parse_error (ascii "Expecting <chain> after -D\n") r
              else do
                let ptr ← copy chain
                let r := { r with chain := some ptr }
                match rest with
                | [] => parse_error (ascii "Expecting <rule number> after -D <chain>\n") r
                | number :: rest =>
                    if beginsWithDash number then
                      parse_error (ascii "Expecting <rule number> after -D <chain>\n") r
                    else
                      let r := { r with ruleNum := some (atoi number - 1) }
                      if atoi number - 1 < 0 then parse_error (ascii "Invalid <rule number>\n") r
                      else parseArguments { r with operation := .deleteRule } rest
      else if arg = ascii "-h" then do
        fprintf .stdout helpText
        free_rule (some r)
        .exit .success
      else parse_error (unknownOption arg) r

/-- `parse`, with the blocks that it allocates and frees. -/
def parseRule (argv : List CString) : Iptcmod.Process (Option (Allocated Opcode)) :=
  if argv.length < 2 then do
    fprintf .stderr (invalidArguments argv)
    return none
  else do
    let block ← s_malloc RULE_SIZE
    let (error, r) ← parseArguments ⟨block, .none, none, none, none⟩ argv.tail
    let error ← require error (r.operation = .none) (ascii "No option specified!\n")
    let error ← require error (r.table = none) (ascii "No table specified!\n")
    if error then do
      free_rule (some r)
      return none
    else return some r

/-- The branches of `main`. -/
def perform (h : Iptcmod.Handle) (r : Allocated Opcode) : Iptcmod.Process Unit :=
  if r.operation = .deleteRule then delete_rule h r
  else if r.operation = .newChain then create_chain h r
  else pure ()

def main (argv : List CString) : Iptcmod.Process Unit := do
  match ← parseRule argv with
  | none => .exit .failure
  | some r =>
      .call (.iptc_init r.tableText) fun
        | none => failWithError (ascii "iptc_init(): ") (ascii "\n")
        | some h => do
            perform h r
            free_rule (some r)
            .invoke (Iptcmod.Call.iptc_free h)
            .exit .success

end NetworkServices.Iptables.Iptc
