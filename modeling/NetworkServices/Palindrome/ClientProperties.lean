import NetworkServices.Palindrome.Client
import NetworkServices.Palindrome.ServerProperties

/-! When the client stops the server. It looks at the text in its buffer and not at the
stream, so a line that does not fit is followed by an empty datagram. -/

set_option autoImplicit false

namespace NetworkServices.Palindrome

structure Fits (line : List UInt8) : Prop where
  short : line.length ≤ 255
  nulFree : 0 ∉ line

structure Receives (round : Round) (datagram : CString) : Prop where
  received : round.received = delivered datagram
  allocated : round.malloc.isSome

/-- The client sends the lines in front of the first empty line or the end of its input,
and the empty datagram behind them; the server answers those lines and stops. -/
def ShutsDownOnRequest (stdin : List UInt8) : Prop :=
  datagrams ⟨stdin, true⟩ = requested stdin ++ [[]] ∧
    ∀ buffer rounds, List.Forall₂ Receives rounds (datagrams ⟨stdin, true⟩) →
      stopsAfter buffer rounds = some (requested stdin).length

/-!
## Lines
-/

section Line

variable {line : List UInt8}

theorem requested_line (single : newline ∉ line) (nonempty : line ≠ []) (rest : List UInt8) :
    requested (line ++ newline :: rest) = line :: requested rest := by
  rw [requested, List.splitOn_append_cons_self, List.splitOn_eq_singleton single,
    List.singleton_append, List.takeWhile_cons_of_pos (by simpa using nonempty), requested]

theorem requested_empty (rest : List UInt8) : requested (newline :: rest) = [] := by
  have split := List.splitOn_append_cons_self (a := newline) [] rest
  rw [List.nil_append, List.splitOn_nil] at split
  rw [requested, split]
  rfl

theorem requested_last (single : newline ∉ line) (nonempty : line ≠ []) :
    requested line = [line] := by
  rw [requested, List.splitOn_eq_singleton single,
    List.takeWhile_cons_of_pos (by simpa using nonempty), List.takeWhile_nil]

theorem requested_nonempty {stdin : List UInt8} (member : line ∈ requested stdin) :
    line ≠ [] := by
  simpa using List.mem_takeWhile_imp member

end Line

/-!
## The client
-/

section Client

variable {stream : Istream} {line : List UInt8}

theorem cString_append_zero_eq_iff (line : List UInt8) :
    cString (line.take 255 ++ [0]) = line ↔ Fits line := by
  refine ⟨fun whole => ?_, fun fits => ?_⟩
  · have nulFree := zero_not_mem_cString (line.take 255 ++ [0])
    rw [cString_append_zero] at whole
    have bound := cString_length_le (line.take 255)
    rw [whole, List.length_take] at bound
    rw [cString_append_zero, whole] at nulFree
    exact ⟨Nat.le_trans bound (Nat.min_le_left _ _), nulFree⟩
  · rw [List.take_of_length_le fits.short, cString_append_of_nulFree fits.nulFree]
    exact List.append_nil line

theorem datagrams_of_empty (empty : message stream = []) : datagrams stream = [[]] := by
  rw [datagrams, if_pos empty]

theorem datagrams_of_nonempty (nonempty : message stream ≠ []) :
    datagrams stream = message stream :: datagrams (stream.getline 256).2 := by
  rw [datagrams, if_neg nonempty]

theorem datagrams_ne (cut : message stream ≠ line) (nonempty : line ≠ [])
    (rest : List CString) : datagrams stream ≠ line :: rest := by
  intro same
  by_cases empty : message stream = []
  · rw [datagrams_of_empty empty] at same
    exact nonempty (List.head_eq_of_cons_eq same).symm
  · rw [datagrams_of_nonempty empty] at same
    exact cut (List.head_eq_of_cons_eq same)

theorem datagrams_of_fits (fits : Fits line) (nonempty : line ≠ []) {next : Istream}
    (read : stream.getline 256 = (line, next)) : datagrams stream = line :: datagrams next := by
  have whole : message stream = line := by
    rw [message, read, cString_append_of_nulFree fits.nulFree]
    exact List.append_nil line
  rw [datagrams_of_nonempty (whole ▸ nonempty), whole, read]

theorem datagrams_of_cut (cut : ¬ Fits line) (nonempty : line ≠ [])
    (read : (stream.getline 256).1 = line.take 255) (rest : List CString) :
    datagrams stream ≠ line :: rest := by
  refine datagrams_ne (fun whole => cut ?_) nonempty rest
  rw [message, read] at whole
  exact (cString_append_zero_eq_iff line).mp whole

theorem getline_stored (single : newline ∉ line) (rest : List UInt8) :
    (Istream.getline 256 ⟨line ++ newline :: rest, true⟩).1 = line.take 255 ∧
      (Istream.getline 256 ⟨line, true⟩).1 = line.take 255 := by
  simp only [Istream.getline_good]
  rcases Nat.lt_or_ge 255 line.length with long | short
  · have whole := getlineLoop_long long single []
    rw [List.append_nil] at whole
    exact ⟨congrArg Prod.fst (getlineLoop_long long single _), congrArg Prod.fst whole⟩
  · rw [List.take_of_length_le short]
    exact ⟨congrArg Prod.fst (getlineLoop_line short single rest),
      congrArg Prod.fst (getlineLoop_last short single)⟩

theorem datagrams_eq_iff (stdin : List UInt8) :
    datagrams ⟨stdin, true⟩ = requested stdin ++ [[]] ↔ ∀ line ∈ requested stdin, Fits line := by
  by_cases ended : newline ∈ stdin
  · obtain ⟨line, rest, rfl, single⟩ := List.eq_append_cons_of_mem ended
    by_cases nonempty : line = []
    · subst nonempty
      rw [List.nil_append, requested_empty]
      exact iff_of_true (datagrams_of_empty rfl) fun _ member => absurd member List.not_mem_nil
    · rw [requested_line single nonempty, List.cons_append, List.forall_mem_cons]
      by_cases fits : Fits line
      · have read : Istream.getline 256 ⟨line ++ newline :: rest, true⟩ = (line, ⟨rest, true⟩) :=
          getlineLoop_line fits.short single rest
        rw [datagrams_of_fits fits nonempty read, List.cons_inj_right, datagrams_eq_iff rest]
        exact (and_iff_right fits).symm
      · exact iff_of_false (datagrams_of_cut fits nonempty (getline_stored single rest).1 _)
          fun all => fits all.1
  · by_cases nonempty : stdin = []
    · subst nonempty
      exact iff_of_true (datagrams_of_empty rfl) fun _ member => absurd member List.not_mem_nil
    · rw [requested_last ended nonempty, List.singleton_append, List.forall_mem_singleton]
      by_cases fits : Fits stdin
      · have read : Istream.getline 256 ⟨stdin, true⟩ = (stdin, ⟨[], false⟩) :=
          getlineLoop_last fits.short ended
        rw [datagrams_of_fits fits nonempty read, datagrams_of_empty rfl]
        exact iff_of_true rfl fits
      · exact iff_of_false (datagrams_of_cut fits nonempty (getline_stored ended []).2 _) fits
termination_by stdin.length
decreasing_by
  subst stdin
  rw [List.length_append, List.length_cons]
  omega

end Client

/-!
## The server
-/

theorem stopsAfter_eq_length {texts : List CString} (nonempty : ∀ text ∈ texts, text ≠ [])
    {rounds : List Round} (receives : List.Forall₂ Receives rounds (texts ++ [[]]))
    (buffer : Buffer 256) : stopsAfter buffer rounds = some texts.length := by
  induction texts generalizing rounds buffer with
  | nil =>
      rw [List.nil_append] at receives
      cases receives with
      | cons last _ =>
          rw [stopsAfter, serve, last.received]
          rfl
  | cons text texts ih =>
      rw [List.cons_append] at receives
      cases receives with
      | @cons round _ rest _ first others =>
          obtain ⟨textNonempty, othersNonempty⟩ := List.forall_mem_cons.mp nonempty
          obtain ⟨verdict, judged⟩ :=
            isPalindrome_isSome first.allocated ((buffer.receive text).text round.beyond)
          have received : round.received = .data text := by
            rw [first.received, delivered, if_neg textNonempty]
          rw [stopsAfter, serve, received]
          simp only [judged, ih othersNonempty others]
          rfl

/-- The client and the server do what was asked for exactly when every line in front of
the first empty one has at most 255 characters, none of them NUL. -/
theorem shutsDownOnRequest_iff (stdin : List UInt8) :
    ShutsDownOnRequest stdin ↔ ∀ line ∈ requested stdin, Fits line := by
  rw [ShutsDownOnRequest, datagrams_eq_iff]
  refine and_iff_left_of_imp fun fits buffer rounds receives => ?_
  rw [(datagrams_eq_iff stdin).mpr fits] at receives
  exact stopsAfter_eq_length (fun _ member => requested_nonempty member) receives buffer

/-- A line of 256 characters, with another line behind it, stops the server. -/
theorem long_line_stops_server :
    ¬ ShutsDownOnRequest (List.replicate 256 49 ++ newline :: ascii "121\n") := by
  intro shuts
  have fits := (datagrams_eq_iff _).mp shuts.1
  have single : newline ∉ List.replicate 256 49 := by
    intro member
    have same := List.eq_of_mem_replicate member
    cases same
  have member : List.replicate 256 49 ∈
      requested (List.replicate 256 49 ++ newline :: ascii "121\n") := by
    rw [requested_line single (List.cons_ne_nil _ _)]
    exact List.mem_cons_self
  have short := (fits _ member).short
  rw [List.length_replicate] at short
  omega

end NetworkServices.Palindrome
