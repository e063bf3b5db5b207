import NetworkServices.Foundation.CString

/-! Text input into a buffer of fixed size: `fgets` of the C library and `getline` of
the C++ streams, which differ in what they do with a line that does not fit, and the
conversion `%s` of `sscanf`, which knows no size. -/

set_option autoImplicit false

namespace NetworkServices

def newline : UInt8 := 10

def fgetsLoop : Nat → List UInt8 → List UInt8 × List UInt8
  | 0, input => ([], input)
  | _ + 1, [] => ([], [])
  | space + 1, char :: input =>
      if char = newline then ([char], input)
      else
        let (chunk, rest) := fgetsLoop space input
        (char :: chunk, rest)

/-- `fgets(s, size, stream)`: what it stores in front of the terminator, and the rest of
the input. At the end of the input it returns a null pointer. -/
def fgets (size : Nat) (input : List UInt8) : Option (List UInt8 × List UInt8) :=
  match input with
  | [] => none
  | _ => some (fgetsLoop (size - 1) input)

/-- An input stream, and whether none of its error bits is set. -/
structure Istream where
  input : List UInt8
  good : Bool

/-- What `getline` stores, what it leaves, and whether it comes to a delimiter. The end
of the input is looked for first, then the delimiter, then the end of the space. -/
def getlineLoop : Nat → List UInt8 → List UInt8 × Istream
  | _, [] => ([], ⟨[], false⟩)
  | space, char :: input =>
      if char = newline then ([], ⟨input, true⟩)
      else
        match space with
        | 0 => ([], ⟨char :: input, false⟩)
        | space + 1 =>
            let (line, rest) := getlineLoop space input
            (char :: line, rest)

/-- `stream.getline(s, size)`: what it stores in front of the terminator. A stream in
which a bit is set gives nothing, and stays as it is. -/
def Istream.getline (size : Nat) (stream : Istream) : List UInt8 × Istream :=
  if stream.good then getlineLoop (size - 1) stream.input else ([], stream)

/-- `sscanf(text, "%s %s …")` with `count` conversions: the words it stores. -/
def scanWords : Nat → CString → List CString
  | 0, _ => []
  | count + 1, text =>
      match (text.dropWhile isspace).span (!isspace ·) with
      | ([], _) => []
      | (word, rest) => word :: scanWords count rest

section Fgets

variable {input chunk rest : List UInt8}

theorem fgetsLoop_append (space : Nat) (input : List UInt8) :
    (fgetsLoop space input).1 ++ (fgetsLoop space input).2 = input := by
  fun_induction fgetsLoop space input with
  | case1 | case2 | case3 => rfl
  | case4 _ char input _ chunk rest read ih =>
      rw [read] at ih
      exact congrArg (List.cons char) ih

theorem fgetsLoop_length_le (space : Nat) (input : List UInt8) :
    (fgetsLoop space input).1.length ≤ space := by
  fun_induction fgetsLoop space input with
  | case1 | case2 => exact Nat.zero_le _
  | case3 => exact Nat.succ_le_succ (Nat.zero_le _)
  | case4 _ char input _ chunk rest read ih =>
      rw [read] at ih
      exact Nat.succ_le_succ ih

theorem fgets_spec {size : Nat} (space : 1 < size) (read : fgets size input = some (chunk, rest)) :
    chunk ++ rest = input ∧ chunk ≠ [] ∧ chunk.length < size := by
  cases input with
  | nil => cases read
  | cons char input =>
      obtain ⟨spare, rfl⟩ : ∃ spare, size = spare + 2 := ⟨size - 2, by omega⟩
      have stored : fgetsLoop (spare + 1) (char :: input) = (chunk, rest) := Option.some.inj read
      have whole := fgetsLoop_append (spare + 1) (char :: input)
      have bound := fgetsLoop_length_le (spare + 1) (char :: input)
      rw [stored] at whole bound
      refine ⟨whole, ?_, Nat.lt_succ_of_le bound⟩
      rw [fgetsLoop] at stored
      split at stored <;> cases stored <;> exact List.cons_ne_nil _ _

end Fgets

section Getline

variable {space : Nat} {line : List UInt8}

/-- Characters that fit and are no delimiter are stored, and the rest is read behind them. -/
theorem getlineLoop_append (fits : line.length ≤ space) (single : newline ∉ line)
    (rest : List UInt8) :
    getlineLoop space (line ++ rest) =
      (line ++ (getlineLoop (space - line.length) rest).1,
        (getlineLoop (space - line.length) rest).2) := by
  induction line generalizing space with
  | nil => rfl
  | cons char line ih =>
      rw [List.mem_cons, not_or] at single
      obtain ⟨space, rfl⟩ : ∃ spare, space = spare + 1 := Nat.exists_eq_add_one_of_ne_zero (by
        rw [List.length_cons] at fits
        omega)
      rw [List.cons_append, getlineLoop, if_neg (Ne.symm single.1), List.length_cons,
        Nat.add_sub_add_right]
      simp only [ih (Nat.le_of_succ_le_succ fits) single.2, List.cons_append]

theorem getlineLoop_newline (space : Nat) (rest : List UInt8) :
    getlineLoop space (newline :: rest) = ([], ⟨rest, true⟩) := by
  cases space with
  | zero => rfl
  | succ space => rfl

theorem getlineLoop_line (fits : line.length ≤ space) (single : newline ∉ line)
    (rest : List UInt8) :
    getlineLoop space (line ++ newline :: rest) = (line, ⟨rest, true⟩) := by
  rw [getlineLoop_append fits single, getlineLoop_newline, List.append_nil]

theorem getlineLoop_last (fits : line.length ≤ space) (single : newline ∉ line) :
    getlineLoop space line = (line, ⟨[], false⟩) := by
  have whole := getlineLoop_append fits single []
  rw [getlineLoop, List.append_nil] at whole
  exact whole

theorem getlineLoop_full {char : UInt8} (other : char ≠ newline) (rest : List UInt8) :
    getlineLoop 0 (char :: rest) = ([], ⟨char :: rest, false⟩) := by
  rw [getlineLoop, if_neg other]

theorem getlineLoop_long (long : space < line.length) (single : newline ∉ line)
    (rest : List UInt8) :
    getlineLoop space (line ++ rest) = (line.take space, ⟨line.drop space ++ rest, false⟩) := by
  have stored : (line.take space).length = space := List.length_take_of_le (Nat.le_of_lt long)
  have front : newline ∉ line.take space := fun member => single (List.mem_of_mem_take member)
  obtain ⟨char, left, behind⟩ : ∃ char left, line.drop space = char :: left :=
    List.exists_cons_of_ne_nil (mt List.drop_eq_nil_iff.mp (Nat.not_le_of_lt long))
  have other : char ≠ newline := by
    intro same
    have member : char ∈ line.drop space := behind ▸ List.mem_cons_self
    exact single (same ▸ List.mem_of_mem_drop member)
  have read := getlineLoop_append (Nat.le_of_eq stored) front (line.drop space ++ rest)
  rw [← List.append_assoc, List.take_append_drop, stored, Nat.sub_self, behind, List.cons_append,
    getlineLoop_full other, List.append_nil] at read
  rw [read, behind, List.cons_append]

theorem getlineLoop_length_le (space : Nat) (input : List UInt8) :
    (getlineLoop space input).1.length + (getlineLoop space input).2.input.length ≤
      input.length := by
  fun_induction getlineLoop space input with
  | case1 => exact Nat.le_refl _
  | case2 | case3 => simp
  | case4 char input _ space line rest read ih =>
      rw [read] at ih
      simp only [List.length_cons] at ih ⊢
      omega

theorem Istream.getline_input_lt {size : Nat} {stream : Istream}
    (stored : (stream.getline size).1 ≠ []) :
    (stream.getline size).2.input.length < stream.input.length := by
  obtain ⟨input, good⟩ := stream
  cases good with
  | false => exact absurd rfl stored
  | true =>
      have positive : 0 < (getlineLoop (size - 1) input).1.length := List.length_pos_iff.mpr stored
      have bound := getlineLoop_length_le (size - 1) input
      change (getlineLoop (size - 1) input).2.input.length < input.length
      omega

theorem Istream.getline_good {size : Nat} (input : List UInt8) :
    Istream.getline size ⟨input, true⟩ = getlineLoop (size - 1) input := rfl

end Getline

end NetworkServices
