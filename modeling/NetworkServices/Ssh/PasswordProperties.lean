import NetworkServices.Ssh.Password

/-! One call of `get_password`: what it stores, what it returns, and that it leaves the console
as it was. -/

set_option autoImplicit false

namespace NetworkServices.Ssh

/-- The bytes in front of the first newline, carriage return, end of file or error. -/
def typed : List Read → List UInt8
  | [] => []
  | read :: rest =>
      match read with
      | .byte ch => if ch = 10 ∨ ch = 13 then [] else ch :: typed rest
      | _ => []

/-- The stores of the loop and of the terminator behind it, with the pointers `p` and `end` as
offsets into the buffer. -/
def passwordStores (finish : Nat) : Nat → List Read → List (UInt8 × Nat)
  | p, [] => [(0, p)]
  | p, read :: rest =>
      match read with
      | .byte ch =>
          if ch ≠ 10 ∧ ch ≠ 13 ∧ p < finish then (ch, p) :: passwordStores finish (p + 1) rest
          else [(0, p)]
      | _ => [(0, p)]

/-- What a call is meant to do with its buffer, its result and the console. -/
structure ReadsPassword (buf_len : Nat) (console : Console) (reads : List Read)
    (reading : Reading) : Prop where
  inside : ∀ store ∈ passwordStores (buf_len - 1) 0 reads, store.2 < buf_len
  stored : passwordStores (buf_len - 1) 0 reads = reading.buf.zipIdx
  buf : reading.buf = (typed reads).take (buf_len - 1) ++ [0]
  ret : reading.ret = -1 ↔ reads[((typed reads).take (buf_len - 1)).length]? = some .failed
  success : reading.ret = 0 ∨ reading.ret = -1
  restored : reading.after = console

section Loop

variable {space : Nat} {reads : List Read}

theorem passwordLoop_stored (space : Nat) (reads : List Read) :
    (passwordLoop space reads).1 = (typed reads).take space := by
  induction reads generalizing space with
  | nil => exact List.take_nil.symm
  | cons read rest ih =>
      cases read with
      | finished | failed => exact List.take_nil.symm
      | byte ch =>
          cases Decidable.em (ch = 10 ∨ ch = 13) with
          | inl ended =>
              have stops : ¬ (ch ≠ 10 ∧ ch ≠ 13 ∧ 0 < space) := by
                intro continues
                rcases ended with newline | carriage
                · exact continues.1 newline
                · exact continues.2.1 carriage
              rw [passwordLoop, if_neg stops, typed, if_pos ended]
              exact List.take_nil.symm
          | inr goesOn =>
              obtain ⟨notNewline, notReturn⟩ := not_or.mp goesOn
              rw [passwordLoop, typed, if_neg goesOn]
              cases space with
              | zero =>
                  rw [if_neg fun continues => Nat.lt_irrefl 0 continues.2.2]
                  rfl
              | succ space =>
                  rw [if_pos ⟨notNewline, notReturn, Nat.succ_pos space⟩, List.take_succ_cons]
                  exact congrArg (List.cons ch) (ih space)

theorem passwordLoop_ending (space : Nat) (reads : List Read) :
    (passwordLoop space reads).2.1 =
      reads[(passwordLoop space reads).1.length]?.getD .finished := by
  fun_induction passwordLoop space reads with
  | case1 => rfl
  | case2 space rest ch continues stored last left loop ih =>
      rw [loop] at ih
      exact ih
  | case3 => rfl
  | case4 => rfl

theorem passwordLoop_last (space : Nat) (reads : List Read) :
    (passwordLoop space reads).2.1 = .finished ∨ (passwordLoop space reads).2.1 ∈ reads := by
  rw [passwordLoop_ending]
  cases last : reads[(passwordLoop space reads).1.length]? with
  | none => exact .inl rfl
  | some read => exact .inr (List.mem_of_getElem? last)

theorem passwordLoop_rest (space : Nat) (reads : List Read) :
    (passwordLoop space reads).2.2 <:+ reads := by
  fun_induction passwordLoop space reads with
  | case1 => exact List.suffix_refl _
  | case2 space rest ch continues stored last left loop ih =>
      rw [loop] at ih
      exact ih.trans (List.suffix_cons _ _)
  | case3 => exact List.suffix_cons _ _
  | case4 => exact List.suffix_cons _ _

theorem passwordStores_eq (finish p : Nat) (reads : List Read) :
    passwordStores finish p reads =
      ((passwordLoop (finish - p) reads).1 ++ [0]).zipIdx p := by
  induction reads generalizing p with
  | nil => rfl
  | cons read rest ih =>
      cases read with
      | finished | failed => rfl
      | byte ch =>
          have shifted : finish - p - 1 = finish - (p + 1) := by omega
          rw [passwordStores, passwordLoop]
          simp only [Nat.sub_pos_iff_lt, shifted]
          split
          · rw [ih]
            rfl
          · rfl

end Loop

section Call

variable (prompt : CString) (buf_len : Nat) (opening : Opening) (console : Console)
  (reads : List Read)

theorem get_password_loop (nonempty : buf_len ≠ 0) :
    (get_password prompt buf_len opening console reads).buf =
        (passwordLoop (buf_len - 1) reads).1 ++ [0] ∧
      (get_password prompt buf_len opening console reads).ret =
        (if (passwordLoop (buf_len - 1) reads).2.1 = .failed then -1 else 0) ∧
      (get_password prompt buf_len opening console reads).rest =
        (passwordLoop (buf_len - 1) reads).2.2 := by
  unfold get_password
  rw [if_neg nonempty]
  exact ⟨rfl, rfl, rfl⟩

/-- Settings that were changed differ from those read before, and are set back. -/
theorem get_password_restores :
    (get_password prompt buf_len opening console reads).after = console := by
  unfold get_password
  split
  · rfl
  · dsimp only
    congr 1
    split
    · split
      · rfl
      · next unchanged => exact not_not.mp unchanged
    · exact if_neg (not_not.mpr rfl)

end Call

theorem get_password_unfailing {prompt : CString} {buf_len : Nat} {opening : Opening}
    {console : Console} {reads : List Read} (nonempty : buf_len ≠ 0)
    (unfailing : .failed ∉ reads) :
    (get_password prompt buf_len opening console reads).ret = 0 ∧
      .failed ∉ (get_password prompt buf_len opening console reads).rest := by
  have last := passwordLoop_last (buf_len - 1) reads
  have rest := passwordLoop_rest (buf_len - 1) reads
  obtain ⟨-, ret, left⟩ := get_password_loop prompt buf_len opening console reads nonempty
  rw [ret, left]
  refine ⟨if_neg fun failed => ?_, fun member => unfailing (rest.mem member)⟩
  rw [failed] at last
  cases last with
  | inl finished => cases finished
  | inr member => exact unfailing member

/-- Whatever the terminal and the input are, a call fills the buffer with what was typed and
leaves the console as it was. -/
theorem get_password_readsPassword (prompt : CString) {buf_len : Nat} (nonempty : 1 ≤ buf_len)
    (opening : Opening) (console : Console) (reads : List Read) :
    ReadsPassword buf_len console reads (get_password prompt buf_len opening console reads) := by
  obtain ⟨buf, ret, -⟩ := get_password_loop prompt buf_len opening console reads (by omega)
  have stored := passwordLoop_stored (buf_len - 1) reads
  have ending := passwordLoop_ending (buf_len - 1) reads
  have stores := passwordStores_eq (buf_len - 1) 0 reads
  rw [stored] at buf ending
  rw [Nat.sub_zero, stored, ← buf] at stores
  refine ⟨fun store member => ?_, stores, buf, ?_, ?_, ?_⟩
  · rw [stores, buf] at member
    have below := List.snd_lt_add_of_mem_zipIdx member
    have cut := List.length_take_le (buf_len - 1) (typed reads)
    rw [List.length_append, List.length_singleton] at below
    omega
  · rw [ret, ending]
    cases reads[((typed reads).take (buf_len - 1)).length]? with
    | none => decide
    | some last =>
        cases last with
        | byte ch => simp
        | finished | failed => decide
  · rw [ret]
    split
    · exact .inr rfl
    · exact .inl rfl
  · exact get_password_restores prompt buf_len opening console reads

/-- A read that fails behind two characters of a buffer for three. -/
theorem get_password_readsPassword_failed :
    ReadsPassword 4 ⟨⟨ECHO, []⟩, fun _ => false⟩ [.byte 97, .byte 98, .failed]
      (get_password (ascii "Password: ") 4 ⟨some 3, true⟩ ⟨⟨ECHO, []⟩, fun _ => false⟩
        [.byte 97, .byte 98, .failed]) :=
  get_password_readsPassword (ascii "Password: ") (by decide) ⟨some 3, true⟩ _ _

end NetworkServices.Ssh
