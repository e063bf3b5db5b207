import Mathlib.Data.List.Basic

/-! A reader of lines with a bound: it stores elements until one ends the line or finds no room,
and that element is taken and not stored. Whether successive reads keep in step with the lines of
their input is a matter of how many ends of lines each of them takes. -/

set_option autoImplicit false

namespace NetworkServices

variable {α : Type} (ends : α → Bool)

/-- What one read stores, and what it leaves. -/
def readLine : Nat → List α → List α × List α
  | _, [] => ([], [])
  | space, item :: rest =>
      if ends item = false ∧ 0 < space then
        let (stored, left) := readLine (space - 1) rest
        (item :: stored, left)
      else ([], rest)

/-- Successive reads: what each of them stores, and what is left. -/
def readLines (space : Nat) : Nat → List α → List (List α) × List α
  | 0, items => ([], items)
  | count + 1, items =>
      let (stored, left) := readLine ends space items
      let (others, rest) := readLines space count left
      (stored :: others, rest)

section Reading

variable {ends} {space : Nat} {items content : List α}

/-- A read of items among which one ends a line does not look behind them. -/
theorem readLine_append (ended : ∃ item ∈ items, ends item = true) (behind : List α) :
    readLine ends space (items ++ behind) =
      ((readLine ends space items).1, (readLine ends space items).2 ++ behind) := by
  fun_induction readLine ends space items with
  | case1 =>
      obtain ⟨_, member, -⟩ := ended
      cases member
  | case2 space item rest continues stored left read ih =>
      obtain ⟨stop, member, stops⟩ := ended
      have later : stop ∈ rest := by
        rcases List.mem_cons.mp member with rfl | later
        · rw [continues.1] at stops
          cases stops
        · exact later
      have inner := ih ⟨stop, later, stops⟩
      rw [read] at inner
      rw [List.cons_append, readLine, if_pos continues, inner]
  | case3 space item rest stops => rw [List.cons_append, readLine, if_neg stops]

theorem readLine_plain : ∀ item ∈ (readLine ends space items).1, ends item = false := by
  fun_induction readLine ends space items with
  | case1 => exact List.forall_mem_nil _
  | case2 space item rest continues stored left read ih =>
      rw [read] at ih
      exact List.forall_mem_cons.mpr ⟨continues.1, ih⟩
  | case3 => exact List.forall_mem_nil _

theorem readLine_line {stop : α} (stops : ends stop = true)
    (plain : ∀ item ∈ content, ends item = false) (fits : content.length ≤ space)
    (rest : List α) : readLine ends space (content ++ stop :: rest) = (content, rest) := by
  induction content generalizing space with
  | nil =>
      rw [List.nil_append, readLine, if_neg]
      intro continues
      rw [stops] at continues
      cases continues.1
  | cons item content ih =>
      rw [List.length_cons] at fits
      have others : ∀ other ∈ content, ends other = false := by
        intro other member
        exact plain other (List.mem_cons_of_mem item member)
      have continues : ends item = false ∧ 0 < space :=
        ⟨plain item List.mem_cons_self, by omega⟩
      rw [List.cons_append, readLine, if_pos continues, ih others (by omega)]

theorem readLine_cut {stop : α} (stops : ends stop = true)
    (plain : ∀ item ∈ content.take space, ends item = false) (rest : List α) :
    (readLine ends space (content ++ stop :: rest)).1 = content.take space := by
  induction content generalizing space with
  | nil =>
      rw [List.nil_append, readLine, if_neg, List.take_nil]
      intro continues
      rw [stops] at continues
      cases continues.1
  | cons item content ih =>
      cases space with
      | zero => rw [List.cons_append, readLine, if_neg (by simp), List.take_zero]
      | succ space =>
          rw [List.take_succ_cons] at plain
          have others : ∀ other ∈ content.take space, ends other = false := by
            intro other member
            exact plain other (List.mem_cons_of_mem item member)
          have continues : ends item = false ∧ 0 < space + 1 :=
            ⟨plain item List.mem_cons_self, Nat.succ_pos space⟩
          rw [List.cons_append, readLine, if_pos continues, List.take_succ_cons]
          exact congrArg (List.cons item) (ih others)

/-- An item that ends the line early, or one without room, is taken in front of the last one. -/
theorem readLine_overrun {stop : α}
    (early : (∃ item ∈ content, ends item = true) ∨ space < content.length) :
    stop ∈ (readLine ends space (content ++ [stop])).2 := by
  induction content generalizing space with
  | nil =>
      rcases early with ended | short
      · obtain ⟨_, member, -⟩ := ended
        cases member
      · cases short
  | cons item content ih =>
      rw [List.cons_append, readLine]
      split
      · next continues =>
          refine ih ?_
          rcases early with ended | short
          · obtain ⟨other, member, ended⟩ := ended
            rcases List.mem_cons.mp member with rfl | later
            · rw [continues.1] at ended
              cases ended
            · exact .inl ⟨other, later, ended⟩
          · rw [List.length_cons] at short
            exact .inr (by omega)
      · exact List.mem_append_right content List.mem_cons_self

theorem readLines_succ (space count : Nat) (items : List α) :
    (readLines ends space (count + 1) items).1 = (readLines ends space count items).1 ++
      [(readLine ends space (readLines ends space count items).2).1] := by
  induction count generalizing items with
  | zero => rfl
  | succ count ih =>
      exact congrArg (List.cons (readLine ends space items).1) (ih (readLine ends space items).2)

end Reading

section Counting

variable [DecidableEq α] {ends} {newline : α} {items : List α}

theorem readLine_count (stops : ends newline = true) (space : Nat) (items : List α) :
    items.count newline ≤ (readLine ends space items).2.count newline + 1 := by
  fun_induction readLine ends space items with
  | case1 => exact Nat.zero_le _
  | case2 space item rest continues stored left read ih =>
      have other : item ≠ newline := by
        intro same
        rw [same, stops] at continues
        cases continues.1
      rw [read] at ih
      rw [List.count_cons_of_ne other]
      exact ih
  | case3 space item rest =>
      rw [List.count_cons]
      split
      · exact Nat.le_refl _
      · exact Nat.le_succ _

/-- A read takes one newline at most, so that as many reads as there are newlines do not look
behind the last one. -/
theorem readLines_append (stops : ends newline = true) (space : Nat) {count : Nat}
    (enough : count ≤ items.count newline) (behind : List α) :
    readLines ends space count (items ++ behind) =
        ((readLines ends space count items).1, (readLines ends space count items).2 ++ behind) ∧
      items.count newline ≤ (readLines ends space count items).2.count newline + count := by
  induction count generalizing items with
  | zero => exact ⟨rfl, Nat.le_refl _⟩
  | succ count ih =>
      have member : newline ∈ items := List.count_pos_iff.mp (by omega)
      have taken := readLine_count stops space items
      obtain ⟨same, left⟩ := @ih (readLine ends space items).2 (by omega)
      refine ⟨?_, ?_⟩
      · simp only [readLines, readLine_append ⟨newline, member, stops⟩, same]
      · simp only [readLines]
        omega

end Counting

end NetworkServices
