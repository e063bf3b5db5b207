import NetworkServices.Foundation.Scan
import NetworkServices.Palindrome.Server

/-! What the receive loop of `server3.cpp` reads of its buffer. The digit check, `strlen` and
`is_palindrome` all rely on a zero in it, which is there as long as the datagrams happen to leave
one. -/

set_option autoImplicit false

namespace NetworkServices.Palindrome

/-- `buff`, and the memory behind it. -/
def cells (buffer : Buffer 256) (behind : Nat → UInt8) (offset : Nat) : UInt8 :=
  buffer.bytes[offset]?.getD (behind offset)

/-- The digit check at one character: it is left with a complaint, or where `currentChar` is
zero. -/
def checkChar (currentChar : UInt8) (_ : Nat) (char : UInt8) : Option Bool :=
  if !isdigit char then some true
  else if currentChar ≠ 0 then none
  else some false

def strlenChar (i : Nat) (char : UInt8) : Option Nat :=
  if char = 0 then some i else none

/-- The offsets of `buff` that the loop of `is_palindrome` over `buff_len` characters reads. -/
def copyReads : Nat → List UInt8 → List Nat
  | _, [] => []
  | i, char :: rest =>
      if isdigit char then i :: copyReads (i + 1) rest
      else if isalpha char then [i]
      else i :: copyReads (i + 1) rest

/-- The loop of the check ends, and none of the three reads outside of the buffer.
`is_palindrome` is called when `strlen` has returned, with its result as an `int`. -/
structure StaysInside (buffer : Buffer 256) (currentChar : UInt8) (behind : Nat → UInt8) :
    Prop where
  terminates : ScanEnds (checkChar currentChar) (cells buffer behind)
  check : ∀ passes, ∀ offset ∈ scanned (checkChar currentChar) (cells buffer behind) passes,
    offset < 256
  strlen : ∀ passes, ∀ offset ∈ scanned strlenChar (cells buffer behind) passes, offset < 256
  is_palindrome : ∀ passes length memory,
    scan strlenChar (cells buffer behind) passes = .inr (length, memory) →
      ∀ offset ∈ copyReads 0 (slice (cells buffer behind) 0 (Int32.ofNat length).toInt.toNat),
        offset < 256

/-- The buffer after some datagrams. -/
def stored (datagrams : List CString) : Buffer 256 :=
  datagrams.foldl Buffer.receive (.zeroed 256)

theorem serve_buffer {round : Round} {datagram : CString}
    (received : round.received = .data datagram) (buffer : Buffer 256) :
    (serve buffer round).2 = buffer.receive datagram := by
  rw [serve, received]
  dsimp only
  split
  · rfl
  · rfl

theorem foldl_serve {rounds : List Round} {datagrams : List CString}
    (received : rounds.map Round.received = datagrams.map .data) :
    rounds.foldl (fun buffer round => (serve buffer round).2) (.zeroed 256) = stored datagrams := by
  unfold stored
  generalize Buffer.zeroed 256 = buffer
  induction rounds generalizing buffer datagrams with
  | nil =>
      cases datagrams with
      | nil => rfl
      | cons datagram rest => cases received
  | cons round rounds ih =>
      cases datagrams with
      | nil => cases received
      | cons datagram rest =>
          rw [List.map_cons, List.map_cons, List.cons.injEq] at received
          rw [List.foldl_cons, List.foldl_cons, serve_buffer received.1, ih received.2]

/-!
## Inside of the buffer
-/

theorem copyReads_lt {i : Nat} {text : List UInt8} :
    ∀ offset ∈ copyReads i text, offset < i + text.length := by
  fun_induction copyReads i text with
  | case1 => exact List.forall_mem_nil _
  | case2 i char rest digit ih | case4 i char rest other plain ih =>
      rw [List.length_cons]
      refine List.forall_mem_cons.mpr ⟨by omega, fun offset read => ?_⟩
      have later := ih offset read
      omega
  | case3 i char rest other letter =>
      rw [List.length_cons]
      exact (List.forall_mem_singleton).mpr (by omega)

theorem strlenChar_eq_some_iff {i length : Nat} {char : UInt8} :
    strlenChar i char = some length ↔ char = 0 ∧ i = length := by
  unfold strlenChar
  split
  · next nul => rw [Option.some.injEq, and_iff_right nul]
  · next other => exact iff_of_false nofun fun ended => other ended.1

theorem strlenChar_eq_none_iff {i : Nat} {char : UInt8} : strlenChar i char = none ↔ char ≠ 0 := by
  rw [Option.eq_none_iff_forall_ne_some]
  simp only [ne_eq, strlenChar_eq_some_iff, not_and]
  exact ⟨fun stays zero => stays i zero rfl, fun other _ zero => absurd zero other⟩

theorem checkChar_ne_none (currentChar : UInt8) {i : Nat} {char : UInt8} (nul : char = 0) :
    checkChar currentChar i char ≠ none := by
  rw [nul]
  exact Option.some_ne_none true

theorem strlenChar_ne_none {i : Nat} {char : UInt8} (nul : char = 0) : strlenChar i char ≠ none :=
  fun passed => strlenChar_eq_none_iff.mp passed nul

section Buffer

variable {buffer : Buffer 256} {behind : Nat → UInt8}

theorem getElem_cells (buffer : Buffer 256) (behind : Nat → UInt8) {offset : Nat}
    (below : offset < 256) : buffer.bytes[offset]? = some (cells buffer behind offset) := by
  have within : offset < buffer.bytes.length := buffer.length_eq.symm ▸ below
  rw [cells, List.getElem?_eq_getElem within, Option.getD_some]

theorem cells_eq_zero_iff :
    (∃ offset < 256, cells buffer behind offset = 0) ↔ 0 ∈ buffer.bytes := by
  constructor
  · intro zero
    obtain ⟨offset, below, zero⟩ := zero
    exact List.mem_of_getElem? (zero ▸ getElem_cells buffer behind below)
  · intro member
    obtain ⟨offset, found⟩ := List.mem_iff_getElem?.mp member
    have within := (List.getElem?_eq_some_iff.mp found).1
    have below : offset < 256 := buffer.length_eq ▸ within
    exact ⟨offset, below, Option.some.inj ((getElem_cells buffer behind below).symm.trans found)⟩

theorem strlen_inside_iff :
    (∀ passes, ∀ offset ∈ scanned strlenChar (cells buffer behind) passes, offset < 256) ↔
      0 ∈ buffer.bytes := by
  rw [scanned_lt_iff, ← @cells_eq_zero_iff buffer behind]
  simp only [ne_eq, strlenChar_eq_none_iff, not_not]

theorem staysInside_of_zero (zero : 0 ∈ buffer.bytes) (currentChar : UInt8) :
    StaysInside buffer currentChar behind := by
  obtain ⟨n, below, nul⟩ := (@cells_eq_zero_iff buffer behind).mpr zero
  have stops : checkChar currentChar n (cells buffer behind n) ≠ none :=
    checkChar_ne_none currentChar nul
  refine ⟨scanEnds_iff.mpr ⟨n, stops⟩, scanned_lt_iff.mpr ⟨n, below, stops⟩,
    strlen_inside_iff.mpr zero, fun passes length memory returned offset read => ?_⟩
  obtain ⟨first, stopped, before⟩ := scan_returns_iff.mp ⟨passes, memory, returned⟩
  obtain ⟨-, rfl⟩ := strlenChar_eq_some_iff.mp stopped
  have early : first ≤ n := le_of_stops (strlenChar_ne_none nul) before
  have bound := copyReads_lt offset read
  rw [slice_length, Int32.toInt_ofNat_of_lt (by omega)] at bound
  omega

end Buffer

/-!
## The iteration
-/

/-- The check of the whole text goes on where a pass has not ended it. -/
theorem complains_cons (currentChar : UInt8) (i : Nat) (char : UInt8) (rest : List UInt8) :
    complains currentChar (char :: rest) =
      (checkChar currentChar i char).getD (complains currentChar rest) := by
  unfold checkChar
  rw [complains]
  split
  · rfl
  · split
    · rfl
    · rfl

theorem complains_eq {currentChar : UInt8} {text : List UInt8} {n : Nat} {complained : Bool}
    (stops : ∃ char, text[n]? = some char ∧ checkChar currentChar n char = some complained)
    (before : ∀ i < n, ∀ char, text[i]? = some char → checkChar currentChar i char = none) :
    complains currentChar text = complained := by
  induction text generalizing n with
  | nil =>
      obtain ⟨_, found, -⟩ := stops
      cases found
  | cons char rest ih =>
      cases n with
      | zero =>
          obtain ⟨_, found, stops⟩ := stops
          cases found
          rw [complains_cons currentChar 0, stops, Option.getD_some]
      | succ n =>
          have goesOn := before 0 (Nat.succ_pos n) char rfl
          have later := ih stops fun i below => before (i + 1) (Nat.succ_lt_succ below)
          rw [complains_cons currentChar 0, goesOn, Option.getD_none, later]

theorem text_eq_slice {buffer : Buffer 256} {behind : Nat → UInt8} {n : Nat} (below : n < 256)
    (nul : cells buffer behind n = 0) (before : ∀ i < n, cells buffer behind i ≠ 0)
    (beyond : List UInt8) : buffer.text beyond = slice (cells buffer behind) 0 n := by
  have within : n < buffer.bytes.length := buffer.length_eq.symm ▸ below
  have zero : buffer.bytes[n] = 0 := by
    have found := getElem_cells buffer behind below
    rw [List.getElem?_eq_getElem within, nul] at found
    exact Option.some.inj found
  have front : buffer.bytes.take n = slice (cells buffer behind) 0 n := by
    refine List.ext_getElem? fun i => ?_
    rw [List.getElem?_take, slice, List.getElem?_map]
    split
    · next inside =>
        rw [getElem_cells buffer behind (Nat.lt_trans inside below), List.getElem?_range' inside]
        simp
    · next outside =>
        rw [List.getElem?_eq_none (by rw [List.length_range']; omega), Option.map_none]
  have nulFree : 0 ∉ slice (cells buffer behind) 0 n := by
    intro member
    obtain ⟨i, -, inside, zero⟩ := mem_slice.mp member
    exact before i (by omega) zero
  rw [Buffer.text, ← List.take_append_drop n buffer.bytes, List.drop_eq_getElem_cons within, zero,
    front, List.append_assoc, List.cons_append, cString_append_of_nulFree nulFree,
    cString_terminated, List.append_nil]

/-- While a zero is left an iteration is what its three reads make of it. -/
theorem serve_eq_of_scans {buffer : Buffer 256} {round : Round} {datagram : CString}
    {behind : Nat → UInt8} {complained : Bool} {length : Nat}
    (received : round.received = .data datagram)
    (zero : 0 ∈ (buffer.receive datagram).bytes)
    (checked : ∃ passes memory, scan (checkChar round.currentChar)
      (cells (buffer.receive datagram) behind) passes = .inr (complained, memory))
    (measured : ∃ passes memory,
      scan strlenChar (cells (buffer.receive datagram) behind) passes = .inr (length, memory)) :
    serve buffer round =
      match isPalindrome round.malloc (slice (cells (buffer.receive datagram) behind) 0 length) with
      | none => (.exitFailure, buffer.receive datagram)
      | some verdict => (.replied complained (answer verdict), buffer.receive datagram) := by
  obtain ⟨k, below, nul⟩ := (@cells_eq_zero_iff _ behind).mpr zero
  obtain ⟨n, stops, checkedBefore⟩ := scan_returns_iff.mp checked
  obtain ⟨m, ended, measuredBefore⟩ := scan_returns_iff.mp measured
  obtain ⟨terminator, rfl⟩ := strlenChar_eq_some_iff.mp ended
  have checkEarly : n ≤ k := le_of_stops (checkChar_ne_none _ nul) checkedBefore
  have lengthEarly : m ≤ k := le_of_stops (strlenChar_ne_none nul) measuredBefore
  have found (i : Nat) (early : i ≤ k) : ((buffer.receive datagram).bytes ++ round.beyond)[i]? =
      some (cells (buffer.receive datagram) behind i) := by
    rw [List.getElem?_append_left (by rw [Buffer.length_eq]; omega)]
    exact getElem_cells _ behind (by omega)
  have text := text_eq_slice (by omega) terminator
    (fun i earlier => strlenChar_eq_none_iff.mp (measuredBefore i earlier)) round.beyond
  have complaint : complains round.currentChar
      ((buffer.receive datagram).bytes ++ round.beyond) = complained := by
    refine complains_eq ⟨_, found n checkEarly, stops⟩ fun i earlier char same => ?_
    rw [found i (by omega)] at same
    cases same
    exact checkedBefore i earlier
  cases judged :
      isPalindrome round.malloc (slice (cells (buffer.receive datagram) behind) 0 m) with
  | none =>
      rw [serve, received]
      dsimp only
      rw [text, judged]
  | some verdict =>
      rw [serve, received]
      dsimp only
      rw [text, judged, complaint]

/-!
## What the datagrams leave
-/

/-- The byte at an offset is that of the latest datagram that reaches it. -/
def lastByte (datagrams : List CString) (offset : Nat) : UInt8 :=
  (datagrams.reverse.findSome? (·[offset]?)).getD 0

def ZeroLeft (datagrams : List CString) : Prop :=
  ∃ offset < 256, lastByte datagrams offset = 0

theorem lastByte_append (datagrams : List CString) (datagram : CString) (offset : Nat) :
    lastByte (datagrams ++ [datagram]) offset =
      datagram[offset]?.getD (lastByte datagrams offset) := by
  unfold lastByte
  rw [List.reverse_append, List.reverse_singleton, List.singleton_append, List.findSome?_cons]
  cases datagram[offset]? with
  | none => rfl
  | some byte => rfl

theorem receive_getElem (buffer : Buffer 256) (datagram : CString) {offset : Nat}
    (below : offset < 256) :
    (buffer.receive datagram).bytes[offset]? =
      some (datagram[offset]?.getD (buffer.bytes[offset]?.getD 0)) := by
  have within : offset < buffer.bytes.length := buffer.length_eq.symm ▸ below
  have bytes : (buffer.receive datagram).bytes = overlay (datagram.take 256) buffer.bytes := rfl
  rw [bytes, overlay, List.getElem?_append, List.getElem?_take, if_pos below, List.length_take]
  split
  · next reached =>
      have inside : offset < datagram.length := by omega
      rw [List.getElem?_eq_getElem inside, Option.getD_some]
  · next short =>
      have outside : datagram.length ≤ offset := by omega
      have place : min 256 datagram.length + (offset - min 256 datagram.length) = offset := by
        omega
      rw [List.getElem?_drop, place, List.getElem?_eq_none outside, Option.getD_none,
        List.getElem?_eq_getElem within, Option.getD_some]

theorem stored_getElem (datagrams : List CString) {offset : Nat} (below : offset < 256) :
    (stored datagrams).bytes[offset]? = some (lastByte datagrams offset) := by
  induction datagrams using List.reverseRecOn with
  | nil => exact List.getElem?_replicate_of_lt below
  | append_singleton datagrams datagram ih =>
      rw [stored, List.foldl_append, List.foldl_cons, List.foldl_nil, lastByte_append,
        receive_getElem _ _ below]
      exact congrArg (fun byte => some (datagram[offset]?.getD (byte.getD 0))) ih

theorem zero_mem_stored_iff (datagrams : List CString) :
    0 ∈ (stored datagrams).bytes ↔ ZeroLeft datagrams := by
  constructor
  · intro member
    obtain ⟨offset, within, zero⟩ := List.getElem_of_mem member
    have below : offset < 256 := (stored datagrams).length_eq ▸ within
    have left := stored_getElem datagrams below
    rw [List.getElem?_eq_getElem within, zero] at left
    exact ⟨offset, below, (Option.some.inj left).symm⟩
  · intro left
    obtain ⟨offset, below, zero⟩ := left
    exact List.mem_of_getElem? (zero ▸ stored_getElem datagrams below)

/-- Whatever the variable and the memory behind the buffer hold, nothing outside is read exactly
when the datagrams leave a zero. -/
theorem staysInside_iff (earlier : List CString) (datagram : CString) :
    (∀ currentChar behind,
        StaysInside ((stored earlier).receive datagram) currentChar behind) ↔
      ZeroLeft (earlier ++ [datagram]) := by
  have after : (stored earlier).receive datagram = stored (earlier ++ [datagram]) := by
    rw [stored, stored, List.foldl_append]
    rfl
  rw [after, ← zero_mem_stored_iff]
  constructor
  · intro inside
    exact strlen_inside_iff.mp (inside 0 fun _ => 0).strlen
  · intro zero currentChar behind
    exact staysInside_of_zero zero currentChar

/-- With digits in all of the buffer and behind it the check goes on, and `strlen` leaves the
buffer. -/
theorem full_datagram_read_beyond :
    ¬ ScanEnds (checkChar 1) (cells ((stored []).receive (List.replicate 256 49)) fun _ => 49) ∧
      256 ∈ scanned strlenChar
        (cells ((stored []).receive (List.replicate 256 49)) fun _ => 49) 257 ∧
      ¬ ∀ currentChar behind,
        StaysInside ((stored []).receive (List.replicate 256 49)) currentChar behind := by
  have digits (offset : Nat) :
      cells ((stored []).receive (List.replicate 256 49)) (fun _ => 49) offset = 49 := by
    unfold cells
    rcases Nat.lt_or_ge offset 256 with below | beyond
    · rw [receive_getElem _ _ below, List.getElem?_replicate_of_lt below]
      rfl
    · rw [List.getElem?_eq_none (by rwa [Buffer.length_eq]), Option.getD_none]
  have endless : ¬ ScanEnds (checkChar 1)
      (cells ((stored []).receive (List.replicate 256 49)) fun _ => 49) := by
    intro ends
    obtain ⟨n, stops⟩ := scanEnds_iff.mp ends
    rw [digits] at stops
    exact stops rfl
  refine ⟨endless, mem_scanned_iff.mpr ⟨by decide, fun i _ => ?_⟩, fun inside => ?_⟩
  · rw [digits]
    rfl
  · exact endless (inside 1 fun _ => 49).terminates

end NetworkServices.Palindrome
