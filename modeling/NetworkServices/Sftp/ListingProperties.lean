import NetworkServices.Sftp.Listing

/-! What the listing prints. The loop prints before it looks at the result, so that the call
that ends it prints a line as well, from what the buffers hold then. -/

set_option autoImplicit false

namespace NetworkServices.SftpGet

/-- A call that delivers an entry. -/
structure Entry where
  bytes : Int32
  positive : bytes > 0
  filename : CString
  mem : CString

/-- The call behind the last entry: there is no further one, or it fails. What a failed call
leaves in the buffers is not known. -/
inductive Ending where
  | last
  | error (bytes : Int32) (negative : bytes < 0) (filename mem : Option CString)

structure Directory where
  entries : List Entry
  ending : Ending

def Entry.answer (entry : Entry) : Readdir :=
  ⟨entry.bytes, some entry.filename, some entry.mem⟩

def Ending.answer : Ending → Readdir
  | .last => ⟨0, none, none⟩
  | .error bytes _ filename mem => ⟨bytes, filename, mem⟩

def Directory.answers (directory : Directory) : List Readdir :=
  directory.entries.map Entry.answer ++ [directory.ending.answer]

/-- The line of an entry: the long form, where there is one. -/
def Entry.line (entry : Entry) : CString :=
  if 0 < entry.mem.length then entry.mem else entry.filename

/-- One line for each entry, in their order, each from a buffer that its own call stored. -/
structure ListsEntries (directory : Directory) (listing : Listing) : Prop where
  lines : listing.printed.map Held.text = directory.entries.map Entry.line
  fresh : ∀ (i : Nat) (line : Held), listing.printed[i]? = some line → line.call = some i

section Loop

variable {filename mem : Held}

theorem Ending.not_positive (ending : Ending) : ¬ ending.answer.bytes > 0 := by
  cases ending with
  | last => decide
  | error bytes negative =>
      intro positive
      exact Int32.lt_irrefl (Int32.lt_trans positive negative)

theorem listLoop_entry (call : Nat) (entry : Entry) (answers : List Readdir) :
    listLoop call filename mem (entry.answer :: answers) =
      (listLoop (call + 1) ⟨entry.filename, some call⟩ ⟨entry.mem, some call⟩ answers).map
        fun result => (⟨entry.line, some call⟩ :: result.1, result.2) := by
  have line : (if 0 < entry.mem.length then (⟨entry.mem, some call⟩ : Held)
      else ⟨entry.filename, some call⟩) = ⟨entry.line, some call⟩ := by
    unfold Entry.line
    split <;> rfl
  have positive : entry.answer.bytes > 0 := entry.positive
  rw [listLoop, if_pos positive, ← line]
  rfl

theorem listLoop_ending (call : Nat) (ending : Ending) :
    ∃ stale, listLoop call filename mem [ending.answer] = some ([stale], ending.answer.bytes) := by
  rw [listLoop, if_neg ending.not_positive]
  exact ⟨_, rfl⟩

theorem listLoop_answers (call : Nat) (entries : List Entry) (ending : Ending) :
    ∃ stale, listLoop call filename mem (entries.map Entry.answer ++ [ending.answer]) =
      some ((entries.zipIdx call).map (fun entry => ⟨entry.1.line, some entry.2⟩) ++ [stale],
        ending.answer.bytes) := by
  induction entries generalizing call filename mem with
  | nil => exact listLoop_ending call ending
  | cons entry entries ih =>
      obtain ⟨stale, rest⟩ := @ih ⟨entry.filename, some call⟩ ⟨entry.mem, some call⟩ (call + 1)
      refine ⟨stale, ?_⟩
      rw [List.map_cons, List.cons_append, listLoop_entry, rest]
      rfl

end Loop

theorem list_printed (directory : Directory) (filename mem : CString) (closedir : Int32) :
    ∃ stale listing, list filename mem directory.answers closedir = some listing ∧
      listing.printed =
        directory.entries.zipIdx.map (fun entry => ⟨entry.1.line, some entry.2⟩) ++ [stale] := by
  obtain ⟨stale, printed⟩ :=
    @listLoop_answers ⟨filename, none⟩ ⟨mem, none⟩ 0 directory.entries directory.ending
  refine ⟨stale, _, congrArg (Option.map _) printed, rfl⟩

/-- Every directory is listed with a line too many, the empty one and one whose listing fails
among them. -/
theorem not_listsEntries (directory : Directory) (filename mem : CString) (closedir : Int32) :
    ¬ ∃ listing, list filename mem directory.answers closedir = some listing ∧
      ListsEntries directory listing := by
  intro lists
  obtain ⟨listing, returned, lists⟩ := lists
  obtain ⟨stale, other, same, printed⟩ := list_printed directory filename mem closedir
  cases Option.some.inj (returned.symm.trans same)
  have lengths := congrArg List.length lists.lines
  rw [List.length_map, List.length_map, printed, List.length_append, List.length_map,
    List.length_zipIdx, List.length_singleton] at lengths
  omega

def oneEntry : Directory where
  entries := [⟨5, by decide, ascii "a.txt", ascii "-rw-r--r-- 1 alice alice 0 a.txt"⟩]
  ending := .last

def noEntry : Directory where
  entries := []
  ending := .last

/-- The only entry is printed twice, and of an empty directory what the memory holds. -/
theorem last_entry_printed_twice :
    list (ascii "filename") (ascii "mem") oneEntry.answers 0 =
        some ⟨[⟨ascii "-rw-r--r-- 1 alice alice 0 a.txt", some 0⟩,
          ⟨ascii "-rw-r--r-- 1 alice alice 0 a.txt", some 0⟩], none⟩ ∧
      list (ascii "filename") (ascii "mem") noEntry.answers 0 =
        some ⟨[⟨ascii "mem", none⟩], none⟩ ∧
      ¬ ListsEntries noEntry ⟨[⟨ascii "mem", none⟩], none⟩ := by
  refine ⟨by decide, by decide, fun lists => ?_⟩
  have lengths := congrArg List.length lists.lines
  cases lengths

end NetworkServices.SftpGet
