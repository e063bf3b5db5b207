import NetworkServices.Foundation.LineReader
import NetworkServices.Ssh.Authentication
import NetworkServices.Ssh.PasswordProperties

/-! Successive calls of `get_password` on one standard input. A call stops at the first newline,
at the first carriage return or at a character it has no room for, and only the first of these
is the end of a line. -/

set_option autoImplicit false

namespace NetworkServices.Ssh

/-- A line of a text, with the one of its two ends that it has. -/
structure Line where
  content : List UInt8
  crlf : Bool
  single : 10 ∉ content
  ended : crlf = false → content.getLast? ≠ some 13

/-- A line up to its newline. -/
def Line.body (line : Line) : List UInt8 :=
  line.content ++ if line.crlf then [13] else []

def Line.text (line : Line) : List UInt8 :=
  line.body ++ [10]

/-- The buffers of successive calls where `/dev/tty` cannot be opened. -/
def passwords (prompt : CString) (buf_len : Nat) (tcgetattr : Bool) :
    Nat → Console → List Read → List (List UInt8)
  | 0, _, _ => []
  | count + 1, console, reads =>
      let reading := get_password prompt buf_len ⟨none, tcgetattr⟩ console reads
      reading.buf :: passwords prompt buf_len tcgetattr count reading.after reading.rest

/-- Each call yields its line of the text, cut to the buffer. -/
def YieldsLines (prompt : CString) (buf_len : Nat) (tcgetattr : Bool) (console : Console)
    (lines : List Line) : Prop :=
  passwords prompt buf_len tcgetattr lines.length console
      ((lines.flatMap Line.text).map .byte) =
    lines.map fun line => line.content.take (buf_len - 1) ++ [0]

/-- A line that one call reads to its end. -/
structure Line.Contained (buf_len : Nat) (line : Line) : Prop where
  newline : line.crlf = false
  plain : 13 ∉ line.content
  fits : line.content.length ≤ buf_len - 1

/-!
## Calls on bytes
-/

/-- A newline or a carriage return. -/
def endsLine (ch : UInt8) : Bool :=
  ch == 10 || ch == 13

theorem endsLine_newline : endsLine 10 = true := by decide

theorem endsLine_carriageReturn : endsLine 13 = true := by decide

theorem endsLine_eq_false_iff {ch : UInt8} : endsLine ch = false ↔ ch ≠ 10 ∧ ch ≠ 13 := by
  simp [endsLine]

theorem not_endsLine {content : List UInt8} (single : 10 ∉ content) (plain : 13 ∉ content) :
    ∀ ch ∈ content, endsLine ch = false := by
  intro ch member
  refine endsLine_eq_false_iff.mpr ⟨?_, ?_⟩
  · intro newline
    exact single (newline ▸ member)
  · intro carriage
    exact plain (carriage ▸ member)

theorem passwordLoop_bytes (space : Nat) (bytes : List UInt8) :
    (passwordLoop space (bytes.map .byte)).1 = (readLine endsLine space bytes).1 ∧
      (passwordLoop space (bytes.map .byte)).2.2 =
        (readLine endsLine space bytes).2.map .byte := by
  induction bytes generalizing space with
  | nil => exact ⟨rfl, rfl⟩
  | cons ch rest ih =>
      obtain ⟨stored, left⟩ := ih (space - 1)
      rw [List.map_cons, passwordLoop, readLine]
      simp only [endsLine_eq_false_iff, and_assoc]
      split
      · exact ⟨congrArg (List.cons ch) stored, left⟩
      · exact ⟨rfl, rfl⟩

theorem passwords_eq (prompt : CString) {buf_len : Nat} (nonempty : buf_len ≠ 0) (tcgetattr : Bool)
    (count : Nat) (console : Console) (bytes : List UInt8) :
    passwords prompt buf_len tcgetattr count console (bytes.map .byte) =
      (readLines endsLine (buf_len - 1) count bytes).1.map (· ++ [0]) := by
  induction count generalizing console bytes with
  | zero => rfl
  | succ count ih =>
      obtain ⟨buf, -, rest⟩ := get_password_loop prompt buf_len ⟨none, tcgetattr⟩ console
        (bytes.map .byte) nonempty
      obtain ⟨stored, left⟩ := passwordLoop_bytes (buf_len - 1) bytes
      rw [passwords, buf, rest, stored, left, ih]
      rfl

/-!
## Lines
-/

section Lines

variable {buf_len : Nat}

theorem Line.text_count (line : Line) : line.text.count 10 = 1 := by
  have content := List.count_eq_zero_of_not_mem line.single
  unfold Line.text Line.body
  rw [List.count_append, List.count_append, content]
  split <;> rfl

theorem text_count (lines : List Line) : (lines.flatMap Line.text).count 10 = lines.length := by
  induction lines with
  | nil => rfl
  | cons line lines ih =>
      rw [List.flatMap_cons, List.count_append, line.text_count, ih, List.length_cons, Nat.add_comm]

theorem Line.not_contained {line : Line} (long : ¬ line.Contained buf_len) :
    (∃ ch ∈ line.body, endsLine ch = true) ∨ buf_len - 1 < line.body.length := by
  unfold Line.body
  cases crlf : line.crlf with
  | true =>
      exact .inl ⟨13, List.mem_append_right _ List.mem_cons_self, endsLine_carriageReturn⟩
  | false =>
      rw [if_neg Bool.false_ne_true, List.append_nil]
      cases Decidable.em (13 ∈ line.content) with
      | inl member => exact .inl ⟨13, member, endsLine_carriageReturn⟩
      | inr plain => exact .inr (Nat.lt_of_not_le fun fits => long ⟨crlf, plain, fits⟩)

theorem Line.Contained.text_eq {line : Line} (contained : line.Contained buf_len) :
    line.text = line.content ++ [10] := by
  unfold Line.text Line.body
  rw [contained.newline, if_neg Bool.false_ne_true, List.append_nil]

theorem readLines_contained {lines : List Line} (contained : ∀ line ∈ lines, line.Contained buf_len)
    (rest : List UInt8) :
    readLines endsLine (buf_len - 1) lines.length (lines.flatMap Line.text ++ rest) =
      (lines.map Line.content, rest) := by
  induction lines with
  | nil => rfl
  | cons line lines ih =>
      have first := contained line List.mem_cons_self
      have others := ih fun other member => contained other (List.mem_cons_of_mem _ member)
      have call := readLine_line endsLine_newline (not_endsLine line.single first.plain) first.fits
        (lines.flatMap Line.text ++ rest)
      rw [List.flatMap_cons, first.text_eq, List.append_assoc, List.append_assoc,
        List.length_cons, List.singleton_append]
      simp only [readLines, call, others]
      rfl

/-- Behind a line that is not contained the calls lag for good. -/
theorem newline_mem_readLines {lines : List Line} (long : ∃ line ∈ lines, ¬ line.Contained buf_len) :
    10 ∈ (readLines endsLine (buf_len - 1) lines.length (lines.flatMap Line.text)).2 := by
  induction lines with
  | nil =>
      obtain ⟨_, member, -⟩ := long
      cases member
  | cons line lines ih =>
      rw [List.flatMap_cons, List.length_cons]
      rcases Classical.em (line.Contained buf_len) with contained | overrun
      · obtain ⟨other, member, overrun⟩ := long
        have later : other ∈ lines := by
          rcases List.mem_cons.mp member with rfl | later
          · exact absurd contained overrun
          · exact later
        have call := readLine_line endsLine_newline (not_endsLine line.single contained.plain)
          contained.fits (lines.flatMap Line.text)
        rw [contained.text_eq, List.append_assoc, List.singleton_append]
        simp only [readLines, call]
        exact ih ⟨other, later, overrun⟩
      · have kept := @readLine_overrun _ endsLine _ _ 10 (Line.not_contained overrun)
        have newline : 10 ∈ line.text := List.mem_append_right _ List.mem_cons_self
        have positive := List.count_pos_iff.mpr kept
        have enough : lines.length + 1 ≤
            ((readLine endsLine (buf_len - 1) line.text).2 ++ lines.flatMap Line.text).count 10 := by
          rw [List.count_append, text_count]
          exact Nat.add_comm lines.length 1 ▸ Nat.add_le_add_right positive _
        obtain ⟨-, left⟩ := readLines_append endsLine_newline (buf_len - 1)
          (Nat.le_of_succ_le enough) []
        simp only [readLines, readLine_append ⟨10, newline, endsLine_newline⟩]
        exact List.count_pos_iff.mp (by omega)

theorem Line.readLine_text {next : Line} (plain : 13 ∉ next.content.take (buf_len - 1)) :
    (readLine endsLine (buf_len - 1) next.text).1 = next.content.take (buf_len - 1) := by
  have single : 10 ∉ next.content.take (buf_len - 1) :=
    fun member => next.single (List.mem_of_mem_take member)
  unfold Line.text Line.body
  rw [List.append_assoc]
  split
  · exact readLine_cut endsLine_carriageReturn (not_endsLine single plain) [10]
  · exact readLine_cut endsLine_newline (not_endsLine single plain) []

end Lines

section Yields

variable {prompt : CString} {buf_len : Nat} {tcgetattr : Bool} {console : Console}

theorem yieldsLines_iff (nonempty : buf_len ≠ 0) (lines : List Line) :
    YieldsLines prompt buf_len tcgetattr console lines ↔
      (readLines endsLine (buf_len - 1) lines.length (lines.flatMap Line.text)).1 =
        lines.map fun line => line.content.take (buf_len - 1) := by
  have cut : (lines.map fun line => line.content.take (buf_len - 1) ++ [0]) =
      (lines.map fun line => line.content.take (buf_len - 1)).map (· ++ [0]) := by
    rw [List.map_map]
    rfl
  unfold YieldsLines
  rw [passwords_eq prompt nonempty, cut]
  exact List.map_inj_right fun _ _ same => List.append_cancel_right same

theorem yieldsLines_append_iff (nonempty : buf_len ≠ 0) (lines : List Line) (next : Line) :
    YieldsLines prompt buf_len tcgetattr console (lines ++ [next]) ↔
      (readLines endsLine (buf_len - 1) lines.length (lines.flatMap Line.text)).1 =
          (lines.map fun line => line.content.take (buf_len - 1)) ∧
        (readLine endsLine (buf_len - 1) ((readLines endsLine (buf_len - 1) lines.length
          (lines.flatMap Line.text)).2 ++ next.text)).1 = next.content.take (buf_len - 1) := by
  have enough : lines.length ≤ (lines.flatMap Line.text).count 10 := (text_count lines).ge
  have calls := (readLines_append endsLine_newline (buf_len - 1) enough next.text).1
  rw [yieldsLines_iff nonempty, List.flatMap_append, List.flatMap_singleton, List.length_append,
    List.length_singleton, readLines_succ, calls, List.map_append, List.map_singleton]
  constructor
  · intro same
    obtain ⟨front, last⟩ := List.append_inj' same rfl
    exact ⟨front, List.singleton_inj.mp last⟩
  · intro same
    rw [same.1, same.2]

end Yields

def emptyLine : Line where
  content := []
  crlf := false
  single := List.not_mem_nil
  ended := by decide

def letterLine : Line where
  content := [120]
  crlf := false
  single := by decide
  ended := by decide

/-- What follows the lines is yielded as well, unless it has a carriage return where it is stored,
exactly when each of the lines is read by one call. -/
theorem yieldsLines_iff_contained (prompt : CString) {buf_len : Nat} (room : 2 ≤ buf_len)
    (tcgetattr : Bool) (console : Console) (lines : List Line) :
    (∀ next : Line, YieldsLines prompt buf_len tcgetattr console (lines ++ [next]) ↔
        13 ∉ next.content.take (buf_len - 1)) ↔
      ∀ line ∈ lines, line.Contained buf_len := by
  have nonempty : buf_len ≠ 0 := by omega
  constructor
  · intro yields line member
    refine Classical.byContradiction fun long => ?_
    have newline := newline_mem_readLines ⟨line, member, long⟩
    have fixed (next : Line) (plain : 13 ∉ next.content.take (buf_len - 1)) :
        (readLine endsLine (buf_len - 1) (readLines endsLine (buf_len - 1) lines.length
          (lines.flatMap Line.text)).2).1 = next.content.take (buf_len - 1) := by
      have last := ((yieldsLines_append_iff nonempty lines next).mp ((yields next).mpr plain)).2
      rw [readLine_append ⟨10, newline, endsLine_newline⟩] at last
      exact last
    have whole : letterLine.content.take (buf_len - 1) = [120] :=
      List.take_of_length_le (Nat.le_sub_of_add_le room)
    have empty := fixed emptyLine (by rw [emptyLine, List.take_nil]; exact List.not_mem_nil)
    have letter := fixed letterLine (by rw [whole]; decide)
    rw [whole, empty, emptyLine, List.take_nil] at letter
    cases letter
  · intro contained next
    have calls := readLines_contained contained []
    have whole : lines.map Line.content = lines.map fun line => line.content.take (buf_len - 1) := by
      refine List.map_congr_left fun line member => ?_
      exact (List.take_of_length_le (contained line member).fits).symm
    rw [List.append_nil] at calls
    rw [yieldsLines_append_iff nonempty, calls]
    constructor
    · intro yields carriage
      have stops := readLine_plain 13 (yields.2.symm ▸ carriage)
      rw [endsLine_carriageReturn] at stops
      cases stops
    · intro plain
      exact ⟨whole, Line.readLine_text plain⟩

def secretLine : Line where
  content := ascii "secret"
  crlf := true
  single := by decide
  ended := by decide

def openLine : Line where
  content := ascii "open"
  crlf := false
  single := by decide
  ended := by decide

/-- Two passwords that end in a newline, and two of which the second one ends in a carriage return
and a newline. -/
theorem yieldsLines_iff_contained_open :
    (∀ next : Line, YieldsLines (ascii "Password: ") 8 false ⟨⟨ECHO, []⟩, fun _ => false⟩
        ([letterLine, openLine] ++ [next]) ↔ 13 ∉ next.content.take 7) ∧
      ¬ ∀ next : Line, YieldsLines (ascii "Password: ") 8 false ⟨⟨ECHO, []⟩, fun _ => false⟩
        ([letterLine, secretLine] ++ [next]) ↔ 13 ∉ next.content.take 7 := by
  constructor
  · refine (yieldsLines_iff_contained (ascii "Password: ") (by decide) false
      ⟨⟨ECHO, []⟩, fun _ => false⟩ [letterLine, openLine]).mpr ?_
    simp only [List.forall_mem_cons, List.not_mem_nil, false_implies, implies_true, and_true]
    exact ⟨⟨rfl, by decide, by decide⟩, rfl, by decide, by decide⟩
  · refine mt (yieldsLines_iff_contained (ascii "Password: ") (by decide) false
      ⟨⟨ECHO, []⟩, fun _ => false⟩ [letterLine, secretLine]).mp ?_
    intro contained
    have ended := (contained secretLine (List.mem_cons_of_mem _ List.mem_cons_self)).newline
    cases ended

/-- What the first line leaves of its end is taken for the second line. -/
theorem carriageReturn_yields_empty_password :
    passwords (ascii "Password: ") PASS_LEN false 2 ⟨⟨ECHO, []⟩, fun _ => false⟩
        (([secretLine, letterLine].flatMap Line.text).map .byte) =
          [ascii "secret" ++ [0], [0]] ∧
      ¬ YieldsLines (ascii "Password: ") PASS_LEN false ⟨⟨ECHO, []⟩, fun _ => false⟩
        [secretLine, letterLine] := by
  have stored : passwords (ascii "Password: ") PASS_LEN false 2 ⟨⟨ECHO, []⟩, fun _ => false⟩
      (([secretLine, letterLine].flatMap Line.text).map .byte) = [ascii "secret" ++ [0], [0]] := rfl
  refine ⟨stored, fun yields => ?_⟩
  have second := congrArg (List.drop 1) (stored.symm.trans yields)
  revert second
  decide

end NetworkServices.Ssh
