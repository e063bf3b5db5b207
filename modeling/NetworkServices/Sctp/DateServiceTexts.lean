import NetworkServices.Sctp.DateService
import Mathlib.Data.List.Perm.Subperm

/-! The two texts of the date service, from which the reading of the clock can be recovered, and the
lines that a client makes of them: the stream numbers tell which text is which. -/

set_option autoImplicit false

namespace NetworkServices.Sctp.DateService

theorem dataText_length (tm : Tm) : (dataText tm).length ≤ 50 := by
  have mday := signedDecimal_length_le tm.tm_mday
  have mon := signedDecimal_length_le (tm.tm_mon + 1)
  have year := signedDecimal_length_le (tm.tm_year + 1900)
  have front : (ascii "Aktualna data: ").length = 15 := by decide
  have dot : (ascii ".").length = 1 := by decide
  simp only [dataText, List.length_append, front, dot]
  omega

theorem czasText_length (tm : Tm) : (czasText tm).length ≤ 50 := by
  have hour := signedDecimal_length_le tm.tm_hour
  have min := signedDecimal_length_le tm.tm_min
  have sec := signedDecimal_length_le tm.tm_sec
  have front : (ascii "Aktualny czas: ").length = 15 := by decide
  have colon : (ascii ":").length = 1 := by decide
  simp only [czasText, List.length_append, front, colon]
  omega

theorem dataText_nulFree (tm : Tm) : 0 ∉ dataText tm := by
  have front : 0 ∉ ascii "Aktualna data: " := by decide
  have dot : 0 ∉ ascii "." := by decide
  simp only [dataText, List.mem_append, not_or]
  exact ⟨⟨⟨⟨⟨front, signedDecimal_nulFree _⟩, dot⟩, signedDecimal_nulFree _⟩, dot⟩,
    signedDecimal_nulFree _⟩

theorem czasText_nulFree (tm : Tm) : 0 ∉ czasText tm := by
  have front : 0 ∉ ascii "Aktualny czas: " := by decide
  have colon : 0 ∉ ascii ":" := by decide
  simp only [czasText, List.mem_append, not_or]
  exact ⟨⟨⟨⟨⟨front, signedDecimal_nulFree _⟩, colon⟩, signedDecimal_nulFree _⟩, colon⟩,
    signedDecimal_nulFree _⟩

/-- Three numbers with separators in between can be read back. -/
theorem separated_inj {front : CString} {separator : UInt8} {a b c a' b' c' : Int32}
    (other : isdigit separator = false)
    (same : front ++ signedDecimal a ++ [separator] ++ signedDecimal b ++ [separator] ++
        signedDecimal c =
      front ++ signedDecimal a' ++ [separator] ++ signedDecimal b' ++ [separator] ++
        signedDecimal c') : a = a' ∧ b = b' ∧ c = c' := by
  simp only [List.append_assoc] at same
  obtain ⟨first, rest⟩ := signedDecimal_append_inj (endsNumeral_cons other)
    (endsNumeral_cons other) (List.append_cancel_left same)
  obtain ⟨second, rest⟩ := signedDecimal_append_inj (endsNumeral_cons other)
    (endsNumeral_cons other) (List.cons.inj rest).2
  have last : signedDecimal c = signedDecimal c' := (List.cons.inj rest).2
  rw [← List.append_nil (signedDecimal c), ← List.append_nil (signedDecimal c')] at last
  exact ⟨first, second, (signedDecimal_append_inj endsNumeral_nil endsNumeral_nil last).1⟩

theorem texts_injective {tm tm' : Tm} (data : dataText tm = dataText tm')
    (czas : czasText tm = czasText tm') : tm = tm' := by
  have dot : ascii "." = [46] := by decide
  have colon : ascii ":" = [58] := by decide
  rw [dataText, dataText, dot] at data
  rw [czasText, czasText, colon] at czas
  obtain ⟨mday, mon, year⟩ := separated_inj (by decide) data
  obtain ⟨hour, min, sec⟩ := separated_inj (by decide) czas
  exact Tm.ext mday ((Int32.add_left_inj _).mp mon) ((Int32.add_left_inj _).mp year) hour min sec

def Message.line (message : Message) : UInt16 × CString :=
  (message.sinfo_stream, message.payload)

/-- The lines for one reading of the clock. -/
def answers (tm : Tm) : List (UInt16 × CString) :=
  [(0, dataText tm), (1, czasText tm)]

theorem answers_perm_iff {tm tm' : Tm} : (answers tm).Perm (answers tm') ↔ tm = tm' := by
  constructor
  · intro same
    have data : (0, dataText tm) ∈ answers tm' := same.subset (.head _)
    have czas : (1, czasText tm) ∈ answers tm' := same.subset (.tail _ (.head _))
    simp only [answers, List.mem_cons, Prod.mk.injEq, List.not_mem_nil, or_false] at data czas
    rcases data with ⟨_, data⟩ | ⟨wrong, _⟩
    · rcases czas with ⟨wrong, _⟩ | ⟨_, czas⟩
      · exact absurd wrong (by decide)
      · exact texts_injective data czas
    · exact absurd wrong (by decide)
  · rintro rfl
    exact .refl _

theorem sendmsg_line {text : CString} (short : text.length ≤ 50) (nulFree : 0 ∉ text)
    (stream : UInt16) (beyond : List UInt8) : (sendmsg stream text beyond).line = (stream, text) := by
  have fits : (text ++ [0]).length ≤ BUFF_SIZE := by
    rw [List.length_append]
    exact Nat.le_trans (Nat.succ_le_succ short) (by decide)
  refine congrArg (Prod.mk stream) ?_
  show ((Buffer.zeroed BUFF_SIZE).receive (text ++ [0])).text beyond = text
  rw [Buffer.text, Buffer.receive_bytes _ fits, overlay, List.append_assoc, List.append_assoc,
    cString_append_of_nulFree nulFree]
  exact List.append_nil text

/-- A message that the server may have sent: it is shown whole, and its end is stored inside of
the buffer of the client. -/
theorem recvmsg_printed {message : Message} (short : message.payload.length ≤ 50)
    (nonempty : message.payload ≠ []) (nulFree : 0 ∉ message.payload) (client : Client)
    (beyond : List UInt8) :
    client.recvmsg message beyond =
      { client.pass with printed := client.printed ++ [message.line] } := by
  have fits : message.payload.length + [(0 : UInt8)].length ≤ BUFF_SIZE :=
    Nat.le_trans (Nat.succ_le_succ short) (by decide)
  have inside : message.payload.length ≤ BUFF_SIZE := Nat.le_of_succ_le fits
  have positive : 0 < message.payload.length := List.length_pos_iff.mpr nonempty
  have stored : (((Buffer.zeroed BUFF_SIZE).receive message.payload).storeAt
      message.payload.length [0]).bytes.take (message.payload.length + 1) =
        message.payload ++ [0] := by
    refine (Buffer.storeAt_take _ fits).trans ?_
    rw [Buffer.receive_bytes _ inside, overlay, List.take_left]
  have shown : (((Buffer.zeroed BUFF_SIZE).receive message.payload).storeAt
      message.payload.length [0]).text beyond = message.payload := by
    rw [Buffer.text, ← List.take_append_drop (message.payload.length + 1) (Buffer.bytes _), stored,
      List.append_assoc, List.append_assoc, cString_append_of_nulFree nulFree]
    exact List.append_nil _
  rw [Client.recvmsg]
  simp only [Nat.min_eq_left inside, if_pos positive, shown]
  rfl

end NetworkServices.Sctp.DateService
