import NetworkServices.Palindrome.IsPalindromeProperties
import NetworkServices.Palindrome.Server

/-! Whether the replies of the palindrome server depend on earlier datagrams. The
text it judges is the datagram followed by what is left of longer ones. -/

set_option autoImplicit false

namespace NetworkServices.Palindrome

structure Carries (round : Round) (datagram : CString) : Prop where
  received : round.received = .data datagram
  allocated : round.malloc.isSome

structure Plain (datagram : CString) : Prop where
  nonempty : datagram ≠ []
  nulFree : 0 ∉ datagram
  short : datagram.length ≤ 255

/-- Every reply is the one of a server that starts with that datagram, and that is
the verdict on exactly the datagram, whatever the uninitialised memory holds. -/
def HistoryFree (datagrams : List CString) : Prop :=
  ∀ rounds, List.Forall₂ Carries rounds datagrams →
    ∀ (k : Nat) (datagram : CString), datagrams[k]? = some datagram →
    ∀ fresh, Carries fresh datagram →
      (run (.zeroed 256) rounds)[k]? = (run (.zeroed 256) [fresh])[0]? ∧
        (run (.zeroed 256) [fresh])[0]? = (isPalindrome fresh.malloc datagram).map answer

/-!
## The text of a datagram
-/

/-- The buffer holds a text that leaves room for a zero, and zeros behind it. -/
structure Holds (buffer : Buffer 256) (remembered : CString) : Prop extends
    buffer.Holds remembered where
  short : remembered.length < 256

theorem holds_zeroed : Holds (.zeroed 256) [] :=
  ⟨Buffer.holds_zeroed, by decide⟩

section Text

variable {buffer : Buffer 256} {remembered datagram : CString}

theorem Holds.receive (holds : Holds buffer remembered) (plain : Plain datagram) :
    Holds (buffer.receive datagram) (overlay datagram remembered) := by
  have short := plain.short
  have rememberedShort := holds.short
  refine ⟨holds.toHolds.receive (by omega) plain.nulFree, ?_⟩
  rw [overlay, List.length_append, List.length_drop]
  omega

/-- One iteration of a run: the verdict is on the datagram and what is left behind it. -/
theorem Holds.run_cons (holds : Holds buffer remembered) (plain : Plain datagram) {round : Round}
    (received : round.received = .data datagram) {verdict : Int32}
    (judged : isPalindrome round.malloc (datagram ++ remembered.drop datagram.length) =
      some verdict) (rest : List Round) :
    run buffer (round :: rest) = answer verdict :: run (buffer.receive datagram) rest := by
  have text := holds.toHolds.text_receive_of_short holds.short (Nat.lt_succ_of_le plain.short)
    plain.nulFree round.beyond
  rw [run, serve, received]
  simp only [text, judged]

theorem Carries.judged {round : Round} (carries : Carries round datagram) (text : CString) :
    ∃ verdict, isPalindrome round.malloc text = some verdict :=
  isPalindrome_isSome carries.allocated text

end Text

/-!
## When the text does not matter
-/

/-- The digits left behind a datagram do not change its verdict: it has a letter, or
it is a number, what is left has no letter, and the digits that are left do not
change whether the number reads the same backwards. -/
def Settled (remembered datagram : CString) : Prop :=
  HasLetter datagram ∨
    significant datagram ≠ [] ∧ ¬ HasLetter (remembered.drop datagram.length) ∧
      ((significant datagram ++ digits (remembered.drop datagram.length)).reverse =
          significant datagram ++ digits (remembered.drop datagram.length) ↔
        (significant datagram).reverse = significant datagram)

instance (remembered datagram : CString) : Decidable (Settled remembered datagram) :=
  inferInstanceAs (Decidable (_ ∨ _ ∧ _ ∧ (_ ↔ _)))

def AllSettled : CString → List CString → Prop
  | _, [] => True
  | remembered, datagram :: rest =>
      Settled remembered datagram ∧ AllSettled (overlay datagram remembered) rest

instance decidableAllSettled :
    (remembered : CString) → (datagrams : List CString) → Decidable (AllSettled remembered datagrams)
  | _, [] => inferInstanceAs (Decidable True)
  | remembered, datagram :: rest =>
      have := decidableAllSettled (overlay datagram remembered) rest
      inferInstanceAs (Decidable (_ ∧ _))

theorem hasLetter_append_iff (front back : CString) :
    HasLetter (front ++ back) ↔ HasLetter front ∨ HasLetter back := by
  simp only [HasLetter, List.mem_append, or_and_right, exists_or]

theorem significant_append {front : CString} (number : significant front ≠ []) (back : CString) :
    significant (front ++ back) = significant front ++ digits back := by
  have nonempty : (List.dropWhile (fun byte => decide (byte = 48)) (digits front)).isEmpty = false := by
    simpa [significant] using number
  rw [significant, digits, List.filter_append, List.dropWhile_append]
  change (if ((digits front).dropWhile _).isEmpty then _ else _) = _
  rw [nonempty]
  rfl

theorem answer_map_inj {tmp tmp' : Block} {text text' : CString} :
    (isPalindrome (some tmp) text).map answer = (isPalindrome (some tmp') text').map answer ↔
      isPalindrome (some tmp) text = isPalindrome (some tmp') text' := by
  rcases isPalindrome_cases tmp text with left | left | left <;>
    rcases isPalindrome_cases tmp' text' with right | right | right <;> rw [left, right] <;> decide

/-- The verdict on a datagram with something behind it is that on the datagram alone,
for all uninitialised memory, exactly when the datagram is settled. -/
theorem verdict_eq_iff_settled (remembered datagram : CString) :
    (∀ tmp tmp', isPalindrome (some tmp) (datagram ++ remembered.drop datagram.length) =
        isPalindrome (some tmp') datagram) ↔ Settled remembered datagram := by
  by_cases letter : HasLetter datagram
  · refine iff_of_true (fun tmp tmp' => ?_) (.inl letter)
    rw [isPalindrome_of_letter letter,
      isPalindrome_of_letter ((hasLetter_append_iff _ _).mpr (.inl letter))]
  by_cases number : significant datagram = []
  · refine iff_of_false (fun same => ?_) (fun settled => (settled.resolve_left letter).1 number)
    obtain ⟨⟨tmp, one⟩, ⟨tmp', zero⟩⟩ := isPalindrome_of_insignificant letter number
    have impossible := (same tmp tmp).symm.trans (same tmp tmp')
    rw [one, zero] at impossible
    exact absurd impossible (by decide)
  by_cases leftLetter : HasLetter (remembered.drop datagram.length)
  · refine iff_of_false (fun same => ?_)
      (fun settled => (settled.resolve_left letter).2.1 leftLetter)
    have impossible := same (fun _ => 0) (fun _ => 0)
    rw [isPalindrome_of_letter ((hasLetter_append_iff _ _).mpr (.inr leftLetter)),
      isPalindrome_of_significant letter number] at impossible
    split at impossible <;> exact absurd impossible (by decide)
  have noLetter : ¬ HasLetter (datagram ++ remembered.drop datagram.length) := by
    rw [hasLetter_append_iff, not_or]
    exact ⟨letter, leftLetter⟩
  have longer : significant (datagram ++ remembered.drop datagram.length) ≠ [] := by
    rw [significant_append number]
    exact List.append_ne_nil_of_left_ne_nil number _
  have settled_iff : Settled remembered datagram ↔
      ((significant datagram ++ digits (remembered.drop datagram.length)).reverse =
          significant datagram ++ digits (remembered.drop datagram.length) ↔
        (significant datagram).reverse = significant datagram) :=
    ⟨fun settled => (settled.resolve_left letter).2.2, fun same => .inr ⟨number, leftLetter, same⟩⟩
  rw [settled_iff]
  simp only [isPalindrome_of_significant noLetter longer,
    isPalindrome_of_significant letter number, significant_append number]
  split <;> split <;> simp_all

/-!
## Runs
-/

def Round.carrying (datagram : CString) (tmp : Block) : Round :=
  { received := .data datagram, currentChar := 0, malloc := some tmp, beyond := [] }

theorem carries_carrying (datagram : CString) (tmp : Block) :
    Carries (.carrying datagram tmp) datagram :=
  ⟨rfl, rfl⟩

theorem forall₂_carrying (datagrams : List CString) (tmp : Block) :
    List.Forall₂ Carries (datagrams.map fun datagram => .carrying datagram tmp) datagrams := by
  induction datagrams with
  | nil => exact .nil
  | cons datagram rest ih => exact .cons (carries_carrying datagram tmp) ih

/-- The replies from a buffer that holds earlier text are the verdicts on the
datagrams alone exactly when all of them are settled. -/
theorem Holds.replies_iff {buffer : Buffer 256} {remembered : CString}
    (holds : Holds buffer remembered) {datagrams : List CString}
    (plain : ∀ datagram ∈ datagrams, Plain datagram) :
    (∀ rounds, List.Forall₂ Carries rounds datagrams →
      ∀ (k : Nat) (datagram : CString), datagrams[k]? = some datagram →
      ∀ fresh, Carries fresh datagram →
        (run buffer rounds)[k]? = (isPalindrome fresh.malloc datagram).map answer) ↔
      AllSettled remembered datagrams := by
  induction datagrams generalizing buffer remembered with
  | nil => exact iff_of_true nofun trivial
  | cons datagram rest ih =>
      obtain ⟨firstPlain, restPlain⟩ := List.forall_mem_cons.mp plain
      have ih := ih (holds.receive firstPlain) restPlain
      constructor
      · intro same
        refine ⟨(verdict_eq_iff_settled remembered datagram).mp fun tmp tmp' => ?_, ih.mp ?_⟩
        · have first := same _ (forall₂_carrying (datagram :: rest) tmp) 0 datagram rfl _
            (carries_carrying datagram tmp')
          obtain ⟨verdict, judged⟩ := (carries_carrying datagram tmp).judged
            (datagram ++ remembered.drop datagram.length)
          rw [List.map_cons, holds.run_cons firstPlain rfl judged, List.getElem?_cons_zero] at first
          rw [← answer_map_inj]
          exact (congrArg (Option.map answer) judged).trans first
        · intro rounds carries k other found fresh freshCarries
          have later := same _ (.cons (carries_carrying datagram fun _ => 0) carries) (k + 1) other
            found fresh freshCarries
          obtain ⟨_, judged⟩ := (carries_carrying datagram fun _ => 0).judged
            (datagram ++ remembered.drop datagram.length)
          rwa [holds.run_cons firstPlain rfl judged, List.getElem?_cons_succ] at later
      · rintro ⟨settled, others⟩ _ (_ | ⟨first, carries⟩) k other found fresh freshCarries
        obtain ⟨verdict, judged⟩ := first.judged (datagram ++ remembered.drop datagram.length)
        rw [holds.run_cons firstPlain first.received judged]
        cases k with
        | zero =>
            cases found
            obtain ⟨tmp, allocated⟩ := Option.isSome_iff_exists.mp first.allocated
            obtain ⟨tmp', freshAllocated⟩ := Option.isSome_iff_exists.mp freshCarries.allocated
            rw [allocated, (verdict_eq_iff_settled remembered datagram).mpr settled tmp tmp'] at judged
            rw [freshAllocated, judged]
            rfl
        | succ k => exact ih.mpr others _ carries k other found fresh freshCarries

theorem run_fresh {fresh : Round} {datagram : CString} (plain : Plain datagram)
    (carries : Carries fresh datagram) :
    (run (.zeroed 256) [fresh])[0]? = (isPalindrome fresh.malloc datagram).map answer := by
  obtain ⟨verdict, judged⟩ := carries.judged datagram
  have alone : datagram ++ ([] : CString).drop datagram.length = datagram := by
    rw [List.drop_nil, List.append_nil]
  rw [holds_zeroed.run_cons plain carries.received (alone.symm ▸ judged), judged]
  rfl

/-- The replies do not depend on the history exactly when every datagram is settled
behind the earlier ones. -/
theorem replies_historyFree_iff {datagrams : List CString}
    (plain : ∀ datagram ∈ datagrams, Plain datagram) :
    HistoryFree datagrams ↔ AllSettled [] datagrams := by
  rw [← holds_zeroed.replies_iff plain]
  constructor
  · intro free rounds carries k datagram found fresh freshCarries
    obtain ⟨same, exactly⟩ := free rounds carries k datagram found fresh freshCarries
    exact same.trans exactly
  · intro same rounds carries k datagram found fresh freshCarries
    have exactly := run_fresh (plain datagram (List.mem_of_getElem? found)) freshCarries
    exact ⟨(same rounds carries k datagram found fresh freshCarries).trans exactly.symm, exactly⟩

theorem replies_historyFree_iff_numbers :
    HistoryFree [ascii "121", ascii "12 34", ascii "7 89"] := by
  refine (replies_historyFree_iff fun datagram member => ?_).mpr (by decide)
  simp only [List.mem_cons, List.not_mem_nil, or_false] at member
  rcases member with rfl | rfl | rfl <;> exact ⟨by decide, by decide, by decide⟩

/-- Behind the number 12345 the palindrome 11 is read as 11345. -/
theorem number_behind_longer_number :
    run (.zeroed 256) [.carrying (ascii "12345") fun _ => 0, .carrying (ascii "11") fun _ => 0] =
        ascii "nn" ∧
      run (.zeroed 256) [.carrying (ascii "11") fun _ => 0] = ascii "t" ∧
      ¬ HistoryFree [ascii "12345", ascii "11"] := by
  have longer : Plain (ascii "12345") := ⟨by decide, by decide, by decide⟩
  have shorter : Plain (ascii "11") := ⟨by decide, by decide, by decide⟩
  have number (text : CString) (plain : ¬ HasLetter text) (positive : significant text ≠ []) :=
    isPalindrome_of_significant plain positive fun _ => 0
  have replies : run (.zeroed 256)
      [.carrying (ascii "12345") fun _ => 0, .carrying (ascii "11") fun _ => 0] = ascii "nn" := by
    rw [holds_zeroed.run_cons longer rfl (number (ascii "12345") (by decide) (by decide)),
      (holds_zeroed.receive longer).run_cons shorter rfl
        (number (ascii "11345") (by decide) (by decide))]
    decide
  have alone : run (.zeroed 256) [.carrying (ascii "11") fun _ => 0] = ascii "t" := by
    rw [holds_zeroed.run_cons shorter rfl (number (ascii "11") (by decide) (by decide))]
    decide
  refine ⟨replies, alone, fun free => ?_⟩
  have same := (free _ (forall₂_carrying _ fun _ => 0) 1 (ascii "11") rfl _
    (carries_carrying (ascii "11") fun _ => 0)).1
  rw [alone] at same
  exact absurd ((congrArg (·[1]?) replies).symm.trans same) (by decide)

end NetworkServices.Palindrome
