import NetworkServices.Iptables.Rule

/-! The argument parser of `iptc.c`. -/

set_option autoImplicit false

namespace NetworkServices.Iptables.Iptc

inductive Opcode where
  | none
  | deleteRule
  | newChain
  deriving DecidableEq

def finish (r : Rule Opcode) : Outcome Opcode :=
  if r.operation = .none then .null (ascii "No option specified!\n")
  else if r.table = none then .null (ascii "No table specified!\n")
  else .rule r

def helpText : CString :=
  ascii "Options:\n" ++ ascii "-D <chain> <rule num> Delete rule from chain\n" ++
    ascii "-N <chain> Create user-defined chain\n" ++ ascii "-t <table> Table to manipulate\n"

/-- The loop `while (*argv)`. A `break` with the error flag set is a null result,
and the rule built so far is freed. -/
def parseLoop : Rule Opcode → List CString → Outcome Opcode
  | r, [] => finish r
  | r, arg :: rest =>
      if arg = ascii "-t" then
        match rest with
        | [] => .null (ascii "Expecting <table> after -t\n")
        | table :: rest =>
            if beginsWithDash table then .null (ascii "Expecting <table> after -t\n")
            else if r.table ≠ none then .null (ascii "Table can be specified only once.\n")
            else parseLoop { r with table := some table } rest
      else if arg = ascii "-N" then
        if r.operation ≠ .none then .null (ascii "Can't use -N with other option.\n")
        else
          match rest with
          | [] => .null (ascii "Expecting <chain> after -N\n")
          | chain :: rest =>
              if beginsWithDash chain then .null (ascii "Expecting <chain> after -N\n")
              else parseLoop { r with chain := some chain, operation := .newChain } rest
      else if arg = ascii "-D" then
        if r.operation ≠ .none then .null (ascii "Can't use -D with other option.\n")
        else
          match rest with
          | [] => .null (ascii "Expecting <chain> after -D\n")
          | chain :: rest =>
              if beginsWithDash chain then .null (ascii "Expecting <chain> after -D\n")
              else
                match rest with
                | [] => .null (ascii "Expecting <rule number> after -D <chain>\n")
                | number :: rest =>
                    if beginsWithDash number then
                      .null (ascii "Expecting <rule number> after -D <chain>\n")
                    else if atoi number - 1 < 0 then .null (ascii "Invalid <rule number>\n")
                    else
                      parseLoop { r with chain := some chain, ruleNum := some (atoi number - 1),
                                         operation := .deleteRule } rest
      else if arg = ascii "-h" then .help helpText
      else .null (unknownOption arg)

def initial : Rule Opcode :=
  { operation := .none, chain := none, table := none, ruleNum := none }

/-- `parse`. The vector holds `argc` strings in front of its null pointer. -/
def parse (argv : List CString) : Outcome Opcode :=
  if argv.length < 2 then .null (invalidArguments argv)
  else parseLoop initial argv.tail

end NetworkServices.Iptables.Iptc
