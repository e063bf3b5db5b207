import NetworkServices.Ssh.ArgumentsProperties

/-! The port option: which texts pass for a port, and that its two spellings are read alike. The
loop over the digits refuses nothing, so that `strtol` decides alone. -/

set_option autoImplicit false

namespace NetworkServices.Ssh

/-- One to five digits, with a value that a port can have. -/
structure WellFormedPort (text : CString) : Prop where
  numeral : IsNumeral text
  short : text.length ≤ 5
  range : 1 ≤ digitsValue 0 text ∧ digitsValue 0 text ≤ 65535

/-- A structure is returned for well-formed ports only, and the last one is its port. -/
def AcceptsWellFormed (environment : Environment) (argv : List CString) (required : UInt32) :
    Prop :=
  ∀ allocated, (parse_connection_data environment argv required).result = some allocated →
    (∀ text ∈ ports argv, WellFormedPort text) ∧
      ∀ text ∈ (ports argv).getLast?, allocated.cd.port.toNat = digitsValue 0 text

theorem strtol_of_validPort {text : CString} (numeral : IsNumeral text) (valid : ValidPort text) :
    strtol text = digitsValue 0 text := by
  have value := strtol_of_isNumeral numeral
  obtain ⟨-, upper⟩ := valid
  omega

theorem wellFormedPort_iff {text : CString} (valid : ValidPort text) :
    WellFormedPort text ↔ IsNumeral text ∧ text.length ≤ 5 := by
  constructor
  · intro wellFormed
    exact ⟨wellFormed.numeral, wellFormed.short⟩
  · intro written
    obtain ⟨numeral, short⟩ := written
    have value := strtol_of_validPort numeral valid
    obtain ⟨lower, upper⟩ := valid
    exact ⟨numeral, short, by omega, by omega⟩

/-- The check of the digits passes everything, so that `strtol` alone decides. -/
theorem acceptsWellFormed_iff (environment : Environment) (argv : List CString)
    (required : UInt32) :
    AcceptsWellFormed environment argv required ↔
      (Complete environment argv required →
        ∀ text ∈ ports argv, IsNumeral text ∧ text.length ≤ 5) := by
  constructor
  · intro accepts complete text member
    obtain ⟨allocated, returned⟩ := Option.isSome_iff_exists.mp (parse_isSome_iff.mpr complete)
    have valid := complete.accepted _ (mem_arguments_of_ports member)
    exact (wellFormedPort_iff valid).mp ((accepts allocated returned).1 text member)
  · intro written allocated returned
    have complete := parse_isSome_iff.mp (Option.isSome_of_mem returned)
    have written := written complete
    refine ⟨fun text member => ?_, fun text last => ?_⟩
    · have valid := complete.accepted _ (mem_arguments_of_ports member)
      exact (wellFormedPort_iff valid).mpr (written text member)
    · obtain ⟨-, -, state, finished, cleared, rfl⟩ := parse_eq_some_iff.mp returned
      obtain ⟨lower, upper, port⟩ := (readAll_filledBy finished cleared).port text last
      have numeral := (written text (List.mem_of_getLast? last)).1
      have value := strtol_of_validPort numeral ⟨lower, upper⟩
      change state.cd.port.toNat = _
      omega

/-- A text with letters is taken for the port in front of them. -/
theorem letters_in_port_accepted :
    ¬ AcceptsWellFormed (.counting fun _ => .found 16777343)
        [ascii "sftp_get", ascii "-p22abc", ascii "alice@server"] (CD_ADDRESS ||| CD_USERNAME) := by
  intro accepts
  have returned : (parse_connection_data (.counting fun _ => .found 16777343)
      [ascii "sftp_get", ascii "-p22abc", ascii "alice@server"] (CD_ADDRESS ||| CD_USERNAME)).result =
        some ⟨1, .stored ⟨2, ascii "alice"⟩, .stored 16777343, 22⟩ := by decide
  have wellFormed := (accepts _ returned).1 (ascii "22abc") (by decide)
  have digits := wellFormed.numeral
  revert digits
  decide

/-!
## Two ways to give a port
-/

def Crashes (environment : Environment) (argv : List CString) (required : UInt32) : Prop :=
  2 ≤ argv.length ∧ environment.malloc.result 0 ≠ 0 ∧
    (argumentLoop environment (.start environment required) argv).1 = .crashed

/-- Two command lines end alike: with the same structure, both with a null pointer, or both in a
crash. -/
structure SameOutcome (environment : Environment) (required : UInt32) (first second : List CString) :
    Prop where
  result : (parse_connection_data environment first required).result =
    (parse_connection_data environment second required).result
  crashes : Crashes environment first required ↔ Crashes environment second required

section Spellings

variable {environment : Environment} {required : UInt32} {first second : List CString}

theorem argumentLoop_crashed_iff {state : State} {argv : List CString} :
    (argumentLoop environment state argv).1 = .crashed ↔
      (readAll environment state (arguments argv)).1 = .crashed := by
  rw [← argumentLoop_reads, quietly]
  cases (argumentLoop environment state argv).1 with
  | finished | crashed => rfl
  | failed message => simp [Control.quiet]

theorem sameOutcome_of_readAll (manyFirst : 2 ≤ first.length) (manySecond : 2 ≤ second.length)
    (same : ∀ state, readAll environment state (arguments first) =
      readAll environment state (arguments second)) : SameOutcome environment required first second := by
  refine ⟨Option.ext fun allocated => ?_, ?_⟩
  · rw [parse_eq_some_iff, parse_eq_some_iff, same, and_iff_right manyFirst,
      and_iff_right manySecond]
  · unfold Crashes
    rw [argumentLoop_crashed_iff, argumentLoop_crashed_iff, same, and_iff_right manyFirst,
      and_iff_right manySecond]

theorem readAll_cons_congr {argument : Argument} {rest others : List Argument}
    (same : ∀ state, readAll environment state rest = readAll environment state others)
    (state : State) :
    readAll environment state (argument :: rest) = readAll environment state (argument :: others) := by
  rw [readAll, readAll]
  split
  · exact same _
  · rfl

/-- `strtol` reads zero from a text that looks like an option. -/
theorem not_validPort_option (text : CString) : ¬ ValidPort (ascii "-p" ++ text) := by
  have zero : strtol (ascii "-p" ++ text) = 0 := rfl
  intro valid
  obtain ⟨lower, -⟩ := valid
  omega

theorem portOption_attached (text : CString) : PortOption (ascii "-p" ++ text) := by
  cases text <;> rfl

/-- The two ways are read alike also where a lone `-p` in front of them takes them for its
port, since neither is one. -/
theorem readAll_spellings (before after : List CString) {text : CString} (nonempty : text ≠ [])
    (state : State) :
    readAll environment state (arguments (before ++ (ascii "-p" ++ text) :: after)) =
      readAll environment state (arguments (before ++ ascii "-p" :: text :: after)) := by
  have long : (ascii "-p" ++ text).length ≠ 2 := by
    intro short
    rw [List.length_append] at short
    exact nonempty (List.eq_nil_of_length_eq_zero (Nat.add_left_cancel short))
  have attached := arguments_attached (portOption_attached text) long after
  have separate := arguments_separate (portOption_attached []) rfl text after
  fun_induction arguments before generalizing state with
  | case1 =>
      rw [List.nil_append, List.nil_append, attached]
      exact congrArg (readAll environment state) separate.symm
  | case2 arg rest option long ih =>
      rw [List.cons_append, List.cons_append, arguments_attached option long,
        arguments_attached option long]
      exact readAll_cons_congr ih state
  | case3 arg option short =>
      have short := not_not.mp short
      have lone := not_validPort_option []
      rw [List.append_nil] at lone
      rw [List.cons_append, List.cons_append, List.nil_append, List.nil_append,
        arguments_separate option short, arguments_separate option short,
        readAll_port_of_invalid (not_validPort_option text), readAll_port_of_invalid lone]
  | case4 arg option short other rest ih =>
      have short := not_not.mp short
      rw [List.cons_append, List.cons_append, List.cons_append, List.cons_append,
        arguments_separate option short, arguments_separate option short]
      exact readAll_cons_congr ih state
  | case5 arg rest other member ih =>
      rw [List.cons_append, List.cons_append, arguments_user other member,
        arguments_user other member]
      exact readAll_cons_congr ih state
  | case6 arg rest other plain ih =>
      rw [List.cons_append, List.cons_append, arguments_ignored other plain,
        arguments_ignored other plain]
      exact ih state

end Spellings

/-- A port may be given in one argument or in two, wherever it stands behind the name of the
program. -/
theorem parse_spellings (environment : Environment) (program : CString) (before after : List CString)
    {text : CString} (nonempty : text ≠ []) (required : UInt32) :
    SameOutcome environment required (program :: before ++ (ascii "-p" ++ text) :: after)
      (program :: before ++ ascii "-p" :: text :: after) := by
  refine sameOutcome_of_readAll ?_ ?_ (readAll_spellings (program :: before) after nonempty)
  · rw [List.length_append, List.length_cons, List.length_cons]
    omega
  · rw [List.length_append, List.length_cons, List.length_cons]
    omega

theorem parse_spellings_port :
    SameOutcome (.counting fun _ => .found 16777343) (CD_ADDRESS ||| CD_PORT)
      [ascii "sftp_get", ascii "alice@server", ascii "-p2222"]
      [ascii "sftp_get", ascii "alice@server", ascii "-p", ascii "2222"] :=
  parse_spellings _ (ascii "sftp_get") [ascii "alice@server"] [] (List.cons_ne_nil 50 _) _

end NetworkServices.Ssh
