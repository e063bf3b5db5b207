import NetworkServices.Sftp.Download

/-! When a download that reports success has left the remote file on the disk. -/

set_option autoImplicit false

namespace NetworkServices.SftpGet

section CopyLoop

variable (writes : Nat → WriteResult)

theorem copyLoop_opened (i : Nat) (content : List UInt8) {reads : List (ReadResult UInt8)}
    (ends : Ends reads) :
    copyLoop writes i (some content) reads = some (some (content ++ transferred writes i reads)) := by
  induction reads generalizing i content with
  | nil => exact ends.elim
  | cons result reads ih =>
      cases result with
      | data chunk =>
          rw [copyLoop, transferred, ← List.append_assoc]
          exact ih (i + 1) (content ++ (writes i).accepted chunk) ends
      | finished | failed => simp [copyLoop, transferred]

theorem copyLoop_unopened (i : Nat) {reads : List (ReadResult UInt8)} (ends : Ends reads) :
    copyLoop writes i none reads = some none := by
  induction reads generalizing i with
  | nil => exact ends.elim
  | cons result reads ih =>
      cases result with
      | data chunk => exact ih (i + 1) ends
      | finished | failed => rfl

theorem copyLoop_pending (i : Nat) (file : Option (List UInt8))
    {reads : List (ReadResult UInt8)} (endless : ¬ Ends reads) :
    copyLoop writes i file reads = none := by
  induction reads generalizing i file with
  | nil => rfl
  | cons result reads ih =>
      cases result with
      | data chunk => exact ih (i + 1) _ endless
      | finished | failed => exact absurd trivial endless

end CopyLoop

def Calls.Completed (calls : Calls) : Prop :=
  ¬ calls.shutdown < 0 ∧ ¬ calls.disconnect < 0 ∧ ¬ calls.free < 0

theorem finish_eq_exitSuccess_iff {calls : Calls} {localFile final : Option (List UInt8)} :
    finish calls localFile = .exitSuccess final ↔ calls.Completed ∧ localFile = final := by
  rw [finish]
  by_cases shutdown : calls.shutdown < 0
  · simp [Calls.Completed, shutdown]
  · by_cases disconnect : calls.disconnect < 0
    · simp [Calls.Completed, shutdown, disconnect]
    · by_cases free : calls.free < 0
      · simp [Calls.Completed, shutdown, disconnect, free]
      · simp [Calls.Completed, shutdown, disconnect, free]

def received (previous : Option (List UInt8)) (opened : Bool) (writes : Nat → WriteResult)
    (reads : List (ReadResult UInt8)) : Option (List UInt8) :=
  if opened then some (transferred writes 0 reads) else previous

theorem download_of_ends {previous : Option (List UInt8)} {calls : Calls}
    {reads : List (ReadResult UInt8)} {writes : Nat → WriteResult} (ends : Ends reads) :
    download previous calls reads writes =
      finish calls (received previous calls.opened writes reads) := by
  rw [download, received, copyLoop_opened writes 0 [] ends, copyLoop_unopened writes 0 ends]
  by_cases opened : calls.opened = true
  · rw [if_pos opened, if_pos opened, List.nil_append]
  · rw [if_neg opened, if_neg opened]

theorem download_of_pending {previous : Option (List UInt8)} {calls : Calls}
    {reads : List (ReadResult UInt8)} {writes : Nat → WriteResult} (endless : ¬ Ends reads) :
    download previous calls reads writes = .copying := by
  rw [download, copyLoop_pending writes 0 (some []) endless, copyLoop_pending writes 0 none endless]
  exact ite_self _

/-- Nothing is lost between the remote file and the disk: into an open file every
write is full and no read fails before the end; without one, the file that is
there already happens to be the remote one. -/
def Lossless (remote : List UInt8) (previous : Option (List UInt8)) (opened : Bool)
    (writes : Nat → WriteResult) (reads : List (ReadResult UInt8)) : Prop :=
  if opened then Intact writes 0 remote reads else previous = some remote

theorem received_eq_iff {remote : List UInt8} {reads : List (ReadResult UInt8)}
    (delivers : Delivers 1024 remote reads) (ends : Ends reads)
    (previous : Option (List UInt8)) (opened : Bool) (writes : Nat → WriteResult) :
    received previous opened writes reads = some remote ↔
      Lossless remote previous opened writes reads := by
  cases opened with
  | false => exact .rfl
  | true =>
      rw [received, Lossless, if_pos rfl, if_pos rfl, Option.some.injEq]
      exact delivers.transferred_eq_iff ends writes 0

/-- A success that is reported is a complete download exactly when, in the runs that
get that far, nothing was lost. -/
theorem download_complete_iff {remote : List UInt8} {reads : List (ReadResult UInt8)}
    (delivers : Delivers 1024 remote reads) (previous : Option (List UInt8)) (calls : Calls)
    (writes : Nat → WriteResult) :
    (∀ localFile, download previous calls reads writes = .exitSuccess localFile →
        localFile = some remote) ↔
      (Ends reads → calls.Completed → Lossless remote previous calls.opened writes reads) := by
  by_cases ends : Ends reads
  · rw [download_of_ends ends, ← received_eq_iff delivers ends previous calls.opened writes]
    constructor
    · intro complete _ completed
      exact complete _ (finish_eq_exitSuccess_iff.mpr ⟨completed, rfl⟩)
    · intro lossless localFile success
      obtain ⟨completed, rfl⟩ := finish_eq_exitSuccess_iff.mp success
      exact lossless ends completed
  · rw [download_of_pending ends]
    exact iff_of_true nofun fun endsThen => absurd endsThen ends

def succeeding : Calls :=
  { opened := true, shutdown := 0, disconnect := 0, free := 0 }

theorem download_complete_iff_twoChunks :
    download none succeeding [.data (ascii "abc"), .data (ascii "de"), .finished]
      (fun _ => .written 1024) = .exitSuccess (some (ascii "abcde")) ∧
    ∀ localFile, download none succeeding [.data (ascii "abc"), .data (ascii "de"), .finished]
      (fun _ => .written 1024) = .exitSuccess localFile → localFile = some (ascii "abcde") := by
  have delivers : Delivers 1024 (ascii "abc" ++ (ascii "de" ++ []))
      [.data (ascii "abc"), .data (ascii "de"), .finished] :=
    .data (by decide) (by decide) (.data (by decide) (by decide) (.finished []))
  refine ⟨by decide, (download_complete_iff delivers _ _ _).mpr fun _ _ => ?_⟩
  simp [Lossless, succeeding, Intact, WriteResult.Full, ascii]

/-- A disk that takes one byte of the only chunk, and a connection that fails behind
the first of two chunks. -/
theorem download_truncated :
    (Delivers 1024 (ascii "abc") [.data (ascii "abc"), .finished] ∧
      download none succeeding [.data (ascii "abc"), .finished] (fun _ => .written 1) =
        .exitSuccess (some (ascii "a"))) ∧
    (Delivers 1024 (ascii "abc") [.data (ascii "ab"), .failed] ∧
      download none succeeding [.data (ascii "ab"), .failed] (fun _ => .written 1024) =
        .exitSuccess (some (ascii "ab"))) ∧
    ¬ ∀ (remote : List UInt8) (reads : List (ReadResult UInt8)), Delivers 1024 remote reads →
      ∀ writes localFile, download none succeeding reads writes = .exitSuccess localFile →
        localFile = some remote := by
  have wholeChunk : Delivers 1024 (ascii "abc" ++ []) [.data (ascii "abc"), .finished] :=
    .data (by decide) (by decide) (.finished [])
  have failing : Delivers 1024 (ascii "ab" ++ ascii "c") [.data (ascii "ab"), .failed] :=
    .data (by decide) (by decide) (.failed _ _)
  refine ⟨⟨wholeChunk, by decide⟩, ⟨failing, by decide⟩, fun complete => ?_⟩
  have truncated := complete _ _ wholeChunk (fun _ => .written 1) (some (ascii "a")) (by decide)
  exact absurd truncated (by decide)

end NetworkServices.SftpGet
