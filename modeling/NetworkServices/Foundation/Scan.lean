import NetworkServices.Foundation.Iteration
import NetworkServices.Foundation.Memory
import Mathlib.Data.Nat.Find

/-! A loop that walks over memory from its first cell on and stops at a cell of its choice. It
knows no bound, so that what it reads, and whether it ends, is a matter of where such a cell is. -/

set_option autoImplicit false

namespace NetworkServices

variable {α β : Type} (visit : Nat → α → Option β)

/-- One pass: the cell at the offset ends the loop with a result, or the next one follows. -/
def scanRound (state : Memory α × Nat) : (Memory α × Nat) ⊕ (β × Memory α) :=
  let read := state.1.read state.2
  match visit state.2 read.1 with
  | some result => .inr (result, read.2)
  | none => .inl (read.2, state.2 + 1)

def scan (cell : Nat → α) (passes : Nat) : (Memory α × Nat) ⊕ (β × Memory α) :=
  iterate (scanRound visit) passes (⟨cell, []⟩, 0)

def readOffsets : (Memory α × Nat) ⊕ (β × Memory α) → List Nat
  | .inl state => state.1.touched
  | .inr ended => ended.2.touched

/-- The offsets read in so many passes. -/
def scanned (cell : Nat → α) (passes : Nat) : List Nat :=
  readOffsets (scan visit cell passes)

def ScanEnds (cell : Nat → α) : Prop :=
  Returns (scanRound visit) (⟨cell, []⟩, 0)

section Passes

variable {visit} {cell : Nat → α} {touched : List Nat} {start passes : Nat}

theorem scanRound_of_some {result : β} (stops : visit start (cell start) = some result) :
    scanRound visit (⟨cell, touched⟩, start) = .inr (result, ⟨cell, start :: touched⟩) := by
  simp only [scanRound, Memory.read, stops]

theorem scanRound_of_none (passed : visit start (cell start) = none) :
    scanRound visit (⟨cell, touched⟩, start) = .inl (⟨cell, start :: touched⟩, start + 1) := by
  simp only [scanRound, Memory.read, passed]

theorem eq_start_of_stops {n : Nat} (stops : visit start (cell start) ≠ none) (lower : start ≤ n)
    (before : ∀ i, start ≤ i → i < n → visit i (cell i) = none) : n = start := by
  rcases Nat.eq_or_lt_of_le lower with same | later
  · exact same.symm
  · exact absurd (before start (Nat.le_refl start) later) stops

theorem passed_succ_iff {n : Nat} (passed : visit start (cell start) = none) :
    (∀ i, start + 1 ≤ i → i < n → visit i (cell i) = none) ↔
      ∀ i, start ≤ i → i < n → visit i (cell i) = none := by
  constructor
  · intro before i lower upper
    rcases Nat.eq_or_lt_of_le lower with rfl | later
    · exact passed
    · exact before i later upper
  · intro before i lower
    exact before i (Nat.le_of_succ_le lower)

/-- The loop ends at the first cell that stops it. -/
theorem iterate_scanRound_eq_inr_iff {result : β} :
    (∃ memory, iterate (scanRound visit) passes (⟨cell, touched⟩, start) = .inr (result, memory)) ↔
      ∃ n, start ≤ n ∧ n < start + passes ∧ visit n (cell n) = some result ∧
        ∀ i, start ≤ i → i < n → visit i (cell i) = none := by
  induction passes generalizing start touched with
  | zero =>
      refine iff_of_false (fun ended => ?_) fun stopped => ?_
      · obtain ⟨_, ended⟩ := ended
        cases ended
      · obtain ⟨n, lower, upper, -⟩ := stopped
        omega
  | succ passes ih =>
      cases first : visit start (cell start) with
      | some other =>
          rw [iterate_of_result (scanRound_of_some first)]
          constructor
          · intro ended
            obtain ⟨_, ended⟩ := ended
            cases ended
            exact ⟨start, Nat.le_refl _, by omega, first, fun i lower upper => by omega⟩
          · intro stopped
            obtain ⟨n, lower, -, stops, before⟩ := stopped
            obtain rfl := eq_start_of_stops (first ▸ Option.some_ne_none other) lower before
            rw [first] at stops
            cases stops
            exact ⟨_, rfl⟩
      | none =>
          rw [iterate_of_next (scanRound_of_none first), ih]
          constructor
          · intro stopped
            obtain ⟨n, lower, upper, stops, before⟩ := stopped
            exact ⟨n, by omega, by omega, stops, (passed_succ_iff first).mp before⟩
          · intro stopped
            obtain ⟨n, lower, upper, stops, before⟩ := stopped
            rcases Nat.eq_or_lt_of_le lower with rfl | later
            · rw [first] at stops
              cases stops
            · exact ⟨n, later, by omega, stops, (passed_succ_iff first).mpr before⟩

/-- A cell is read when no cell before it stops the loop. -/
theorem mem_readOffsets_iterate_iff {offset : Nat} :
    offset ∈ readOffsets (iterate (scanRound visit) passes (⟨cell, touched⟩, start)) ↔
      offset ∈ touched ∨ start ≤ offset ∧ offset < start + passes ∧
        ∀ i, start ≤ i → i < offset → visit i (cell i) = none := by
  induction passes generalizing start touched with
  | zero =>
      rw [iterate, readOffsets, or_iff_left]
      omega
  | succ passes ih =>
      cases first : visit start (cell start) with
      | some result =>
          have only : (start ≤ offset ∧ offset < start + (passes + 1) ∧
              ∀ i, start ≤ i → i < offset → visit i (cell i) = none) ↔ offset = start := by
            constructor
            · intro read
              obtain ⟨lower, -, before⟩ := read
              exact eq_start_of_stops (first ▸ Option.some_ne_none result) lower before
            · intro same
              exact ⟨same.ge, by omega, fun i lower upper => by omega⟩
          rw [iterate_of_result (scanRound_of_some first), readOffsets, List.mem_cons, only, or_comm]
      | none =>
          rw [iterate_of_next (scanRound_of_none first), ih, List.mem_cons, or_assoc, or_left_comm,
            passed_succ_iff first]
          refine or_congr_right ?_
          constructor
          · intro read
            rcases read with same | ⟨lower, upper, before⟩
            · exact ⟨same.ge, by omega, fun i start_le i_lt => by omega⟩
            · exact ⟨by omega, by omega, before⟩
          · intro read
            obtain ⟨lower, upper, before⟩ := read
            rcases Nat.eq_or_lt_of_le lower with same | later
            · exact .inl same.symm
            · exact .inr ⟨later, by omega, before⟩

end Passes

section Scan

variable {visit} {cell : Nat → α}

theorem le_of_stops {n k : Nat} (stops : visit k (cell k) ≠ none)
    (before : ∀ i < n, visit i (cell i) = none) : n ≤ k :=
  Nat.le_of_not_lt fun later => stops (before k later)

/-- A scan returns the result of the first cell that stops it. -/
theorem scan_returns_iff {result : β} :
    (∃ passes memory, scan visit cell passes = .inr (result, memory)) ↔
      ∃ n, visit n (cell n) = some result ∧ ∀ i < n, visit i (cell i) = none := by
  constructor
  · intro ended
    obtain ⟨passes, ended⟩ := ended
    obtain ⟨n, -, -, stops, before⟩ := iterate_scanRound_eq_inr_iff.mp ended
    exact ⟨n, stops, fun i => before i (Nat.zero_le i)⟩
  · intro stopped
    obtain ⟨n, stops, before⟩ := stopped
    exact ⟨n + 1, iterate_scanRound_eq_inr_iff.mpr
      ⟨n, Nat.zero_le n, by omega, stops, fun i _ => before i⟩⟩

theorem mem_scanned_iff {passes offset : Nat} :
    offset ∈ scanned visit cell passes ↔
      offset < passes ∧ ∀ i < offset, visit i (cell i) = none := by
  unfold scanned scan
  rw [mem_readOffsets_iterate_iff, or_iff_right List.not_mem_nil, Nat.zero_add]
  simp only [Nat.zero_le, true_and, true_imp_iff]

theorem exists_first_stop {limit : Nat} (stopped : ∃ n < limit, visit n (cell n) ≠ none) :
    ∃ n < limit, visit n (cell n) ≠ none ∧ ∀ i < n, visit i (cell i) = none := by
  classical
  obtain ⟨below, stops⟩ := Nat.find_spec stopped
  refine ⟨Nat.find stopped, below, stops, fun i before => ?_⟩
  by_contra earlier
  exact Nat.find_min stopped before ⟨Nat.lt_trans before below, earlier⟩

/-- A scan stays below a limit exactly when a cell below it stops it, and then it ends. -/
theorem scanned_lt_iff {limit : Nat} :
    (∀ passes, ∀ offset ∈ scanned visit cell passes, offset < limit) ↔
      ∃ n < limit, visit n (cell n) ≠ none := by
  constructor
  · intro inside
    by_contra passed
    simp only [not_exists, not_and, not_not] at passed
    have read : limit ∈ scanned visit cell (limit + 1) :=
      mem_scanned_iff.mpr ⟨Nat.lt_succ_self limit, passed⟩
    exact Nat.lt_irrefl limit (inside _ _ read)
  · intro stopped passes offset read
    obtain ⟨n, below, stops⟩ := stopped
    obtain ⟨-, before⟩ := mem_scanned_iff.mp read
    exact Nat.lt_of_le_of_lt (le_of_stops stops before) below

theorem scanEnds_iff : ScanEnds visit cell ↔ ∃ n, visit n (cell n) ≠ none := by
  constructor
  · intro ends
    obtain ⟨passes, ⟨result, memory⟩, ended⟩ := ends
    obtain ⟨n, stops, -⟩ := scan_returns_iff.mp ⟨passes, memory, ended⟩
    exact ⟨n, by rw [stops]; exact Option.some_ne_none _⟩
  · intro stopped
    obtain ⟨n, stops⟩ := stopped
    obtain ⟨first, -, stops, before⟩ := exists_first_stop ⟨n, Nat.lt_succ_self n, stops⟩
    obtain ⟨result, stops⟩ := Option.ne_none_iff_exists'.mp stops
    obtain ⟨passes, memory, ended⟩ := scan_returns_iff.mpr ⟨first, stops, before⟩
    exact ⟨passes, (result, memory), ended⟩

end Scan

end NetworkServices
