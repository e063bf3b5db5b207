import NetworkServices.Ssh.Authentication
import NetworkServices.Ssh.PasswordProperties

/-! When `authenticate_user` returns although the input of the user ends. At the end of
the input `get_password` succeeds with an empty password, and `scanf` leaves its variable
as it was, so neither loop ends by itself. -/

set_option autoImplicit false

namespace NetworkServices.Ssh

theorem failed_not_mem_bytes (bytes : List UInt8) : .failed ∉ bytes.map Read.byte := by
  intro member
  obtain ⟨_, _, same⟩ := List.mem_map.1 member
  cases same

section Attempts

theorem ask_unfailing (opening : Nat → Opening) {dialogue : Dialogue}
    (unfailing : .failed ∉ dialogue.reads) :
    ∃ password asked, dialogue.ask opening = (some password, asked) ∧
      asked.attempts = dialogue.attempts ∧ .failed ∉ asked.reads := by
  have nonempty : PASS_LEN ≠ 0 := by decide
  obtain ⟨succeeded, left⟩ := get_password_unfailing nonempty unfailing
  exact ⟨_, _, if_neg (not_not_intro succeeded), rfl, left⟩

/-- An attempt either succeeds, and is the last one, or leaves the rest of the input. -/
theorem attempt_cases (answer : Nat → Int) (password : CString) (dialogue : Dialogue) :
    (answer dialogue.attempts = 0 ∧ ∃ result, dialogue.attempt answer password = .inr result) ∨
    (answer dialogue.attempts ≠ 0 ∧ ∃ next, dialogue.attempt answer password = .inl next ∧
      next.attempts = dialogue.attempts + 1 ∧ next.reads = dialogue.reads) := by
  unfold Dialogue.attempt
  cases decEq (answer dialogue.attempts) 0 with
  | isTrue accepted => exact .inl ⟨accepted, _, if_pos accepted⟩
  | isFalse rejected => exact .inr ⟨rejected, _, if_neg rejected, rfl, rfl⟩

/-- The part in front of a loop returns, unless the list of methods makes it ask. -/
theorem withAuthList_cases {server : Server} {dialogue : Dialogue}
    {next : CString → Dialogue ⊕ Int × Dialogue} {asks : CString → Prop}
    (decided : ∀ auth_list, (asks auth_list ∧ next auth_list = .inl dialogue) ∨
      (¬ asks auth_list ∧ ∃ result, next auth_list = .inr result)) :
    ((∃ auth_list, server.userauth_list = some auth_list ∧ asks auth_list) ∧
      withAuthList server dialogue next = .inl dialogue) ∨
    ((¬ ∃ auth_list, server.userauth_list = some auth_list ∧ asks auth_list) ∧
      ∃ result, withAuthList server dialogue next = .inr result) := by
  unfold withAuthList
  cases listed : server.userauth_list with
  | none =>
      refine .inr ⟨fun asking => ?_, ?_⟩
      · obtain ⟨_, same, _⟩ := asking
        cases same
      · cases server.userauth_authenticated with
        | true => exact ⟨_, rfl⟩
        | false => exact ⟨_, rfl⟩
  | some auth_list =>
      rcases decided auth_list with asking | early
      · obtain ⟨asking, entered⟩ := asking
        exact .inl ⟨⟨auth_list, rfl, asking⟩, entered⟩
      · obtain ⟨silent, ended⟩ := early
        refine .inr ⟨fun asking => ?_, ended⟩
        obtain ⟨_, same, asking⟩ := asking
        cases same
        exact silent asking

end Attempts

namespace SftpGet

variable (server : Server) (opening : Nat → Opening) {dialogue : Dialogue}

theorem pass_cases (unfailing : .failed ∉ dialogue.reads) :
    (server.userauth_password dialogue.attempts = 0 ∧
      ∃ result, pass server opening dialogue = .inr result) ∨
    (server.userauth_password dialogue.attempts ≠ 0 ∧
      ∃ next, pass server opening dialogue = .inl next ∧
        next.attempts = dialogue.attempts + 1 ∧ .failed ∉ next.reads) := by
  obtain ⟨password, asked, answered, same, left⟩ := ask_unfailing opening unfailing
  unfold pass
  rw [answered, ← same]
  rcases attempt_cases server.userauth_password password asked with accepted | rejected
  · exact .inl accepted
  · obtain ⟨rejected, next, attempted, counted, kept⟩ := rejected
    rw [← kept] at left
    exact .inr ⟨rejected, next, attempted, counted, left⟩

def Stuck (dialogue : Dialogue) : Prop :=
  .failed ∉ dialogue.reads ∧
    ∀ attempt, dialogue.attempts ≤ attempt → server.userauth_password attempt ≠ 0

theorem stuck_pass (stuck : Stuck server dialogue) :
    ∃ next, pass server opening dialogue = .inl next ∧ Stuck server next := by
  obtain ⟨unfailing, rejecting⟩ := stuck
  rcases pass_cases server opening unfailing with accepted | stepped
  · exact absurd accepted.1 (rejecting _ (Nat.le_refl _))
  · obtain ⟨_, next, stepped, counted, left⟩ := stepped
    refine ⟨next, stepped, left, fun attempt later => rejecting attempt ?_⟩
    omega

theorem returns_pass_iff (unfailing : .failed ∉ dialogue.reads) :
    Returns (pass server opening) dialogue ↔
      ∃ attempt, dialogue.attempts ≤ attempt ∧ server.userauth_password attempt = 0 := by
  constructor
  · intro returns
    refine Classical.byContradiction fun rejecting => ?_
    have stuck : Stuck server dialogue :=
      ⟨unfailing, fun attempt later accepted => rejecting ⟨attempt, later, accepted⟩⟩
    exact not_returns_of_invariant (Stuck server) (fun _ => stuck_pass server opening) stuck returns
  · intro accepted
    obtain ⟨attempt, later, accepted⟩ := accepted
    apply returns_of_variant
      (fun dialogue => .failed ∉ dialogue.reads ∧ dialogue.attempts ≤ attempt)
      (fun dialogue => attempt - dialogue.attempts) _ ⟨unfailing, later⟩
    intro dialogue invariant
    obtain ⟨unfailing, later⟩ := invariant
    rcases pass_cases server opening unfailing with ended | stepped
    · exact .inl ended.2
    · obtain ⟨rejected, next, stepped, counted, left⟩ := stepped
      have before : dialogue.attempts ≠ attempt := fun same => rejected (same ▸ accepted)
      have kept : next.attempts ≤ attempt := by omega
      have decreased : attempt - next.attempts < attempt - dialogue.attempts := by omega
      exact .inr ⟨next, stepped, ⟨left, kept⟩, decreased⟩

def AsksPassword : Prop :=
  ∃ auth_list, server.userauth_list = some auth_list ∧ supports "password" auth_list ∧
    ¬ (supports "publickey" auth_list ∧ server.userauth_publickey_fromfile 0 = 0)

theorem start_cases (dialogue : Dialogue) :
    (AsksPassword server ∧ start server dialogue = .inl dialogue) ∨
    (¬ AsksPassword server ∧ ∃ result, start server dialogue = .inr result) := by
  refine withAuthList_cases fun auth_list => ?_
  split
  case isTrue accepted => exact .inr ⟨fun asking => asking.2 accepted, _, rfl⟩
  case isFalse rejected =>
    split
    case isTrue unsupported => exact .inr ⟨fun asking => unsupported asking.1, _, rfl⟩
    case isFalse supported => exact .inl ⟨⟨not_not.1 supported, rejected⟩, rfl⟩

theorem returns_iff (unfailing : .failed ∉ dialogue.reads) :
    (∃ steps result, authenticate_user server opening steps dialogue = some result) ↔
      ¬ AsksPassword server ∨
        ∃ attempt, dialogue.attempts ≤ attempt ∧ server.userauth_password attempt = 0 := by
  unfold authenticate_user
  rcases start_cases server dialogue with asking | early
  · obtain ⟨asking, entered⟩ := asking
    rw [entered, or_iff_right (not_not_intro asking)]
    exact returned_iff.trans (returns_pass_iff server opening unfailing)
  · obtain ⟨silent, result, ended⟩ := early
    rw [ended]
    exact iff_of_true ⟨0, result, rfl⟩ (.inl silent)

end SftpGet

namespace ExecRsa

variable (server : Server) (opening : Nat → Opening) (indeterminate : Nat → UInt8)

/-- An answer that ends the inner loop, 't' or 'n'. -/
def isAnswer (char : UInt8) : Bool := char == 116 || char == 110

/-- What the attempt with the number `attempts` comes to, when `chars` is left. -/
def Attempted (attempts : Nat) (chars : List UInt8) (outcome : Choice ⊕ Int × Dialogue) : Prop :=
  (server.userauth_publickey_fromfile attempts = 0 ∧ ∃ result, outcome = .inr result) ∨
  (server.userauth_publickey_fromfile attempts ≠ 0 ∧ ∃ next,
    outcome = .inl ⟨next, indeterminate (attempts + 1), chars⟩ ∧
      next.attempts = attempts + 1 ∧ .failed ∉ next.reads)

theorem attempted_tryKey {dialogue : Dialogue} (unfailing : .failed ∉ dialogue.reads)
    (password : CString) (chars : List UInt8) :
    Attempted server indeterminate dialogue.attempts chars
      (tryKey server indeterminate password chars dialogue) := by
  unfold tryKey
  rcases attempt_cases server.userauth_publickey_fromfile password dialogue with accepted | rejected
  · obtain ⟨accepted, result, ended⟩ := accepted
    rw [ended]
    exact .inl ⟨accepted, result, rfl⟩
  · obtain ⟨rejected, next, attempted, counted, kept⟩ := rejected
    rw [attempted]
    rw [← kept] at unfailing
    exact .inr ⟨rejected, next.print question, counted ▸ rfl, counted, unfailing⟩

section Pass

variable {choice : Choice} {ret : UInt8} {chars : List UInt8}

theorem pass_of_answer (scanned : scanChar choice.ret choice.chars = (ret, chars))
    (answered : isAnswer ret) (unfailing : .failed ∉ choice.dialogue.reads) :
    Attempted server indeterminate choice.dialogue.attempts chars
      (pass server opening indeterminate choice) := by
  unfold pass
  rw [scanned]
  dsimp only
  rw [isAnswer, Bool.or_eq_true, beq_iff_eq, beq_iff_eq] at answered
  cases answered with
  | inl withPassword =>
      obtain ⟨password, asked, got, same, left⟩ := ask_unfailing opening unfailing
      rw [if_pos withPassword, got, ← same]
      exact attempted_tryKey server indeterminate left password chars
  | inr without =>
      have other : ret ≠ 116 := by
        rw [without]
        decide
      rw [if_neg other, if_pos without]
      exact attempted_tryKey server indeterminate unfailing [] chars

theorem pass_of_other (scanned : scanChar choice.ret choice.chars = (ret, chars))
    (unanswered : ¬ isAnswer ret) :
    pass server opening indeterminate choice = .inl ⟨choice.dialogue, ret, chars⟩ := by
  unfold pass
  rw [scanned]
  dsimp only
  rw [isAnswer, Bool.or_eq_true, beq_iff_eq, beq_iff_eq, not_or] at unanswered
  rw [if_neg unanswered.1, if_neg unanswered.2]

end Pass

/-- From the attempt `first` on, whose variable `ret` is new, the answers among `chars`
come to the attempt with the number `attempt`: there are enough of them, or the last
character is an answer and what `ret` happens to hold answers from there on. -/
def AnswersReach (first : Nat) (chars : List UInt8) (attempt : Nat) : Prop :=
  attempt < first + chars.countP isAnswer ∨
  ((∀ last ∈ chars.getLast?, isAnswer last) ∧ ∀ later, first + chars.countP isAnswer ≤ later →
    later ≤ attempt → isAnswer (indeterminate later))

/-- The same in the middle of an attempt, where `ret` holds a character read before. -/
def Reaches (choice : Choice) (attempt : Nat) : Prop :=
  attempt < choice.dialogue.attempts + choice.chars.countP isAnswer ∨
  (isAnswer (choice.chars.getLastD choice.ret) ∧ ∀ later,
    choice.dialogue.attempts + choice.chars.countP isAnswer ≤ later → later ≤ attempt →
      choice.dialogue.attempts < later → isAnswer (indeterminate later))

section Reaches

variable {indeterminate} {choice : Choice} {ret held : UInt8} {chars rest : List UInt8}
  {attempt : Nat}

theorem scanChar_last (scanned : scanChar held chars = (ret, rest)) :
    chars.getLastD held = rest.getLastD ret := by
  cases chars with
  | nil =>
      cases scanned
      rfl
  | cons char chars =>
      cases scanned
      exact List.getLastD_cons

theorem scanChar_length (scanned : scanChar held chars = (ret, rest)) :
    rest.length < chars.length ∨ (chars = [] ∧ rest = []) := by
  cases chars with
  | nil =>
      cases scanned
      exact .inr ⟨rfl, rfl⟩
  | cons char chars =>
      cases scanned
      exact .inl (Nat.lt_succ_self _)

theorem scanChar_other (scanned : scanChar held chars = (ret, rest)) (unanswered : ¬ isAnswer ret) :
    chars.countP isAnswer = rest.countP isAnswer := by
  cases chars with
  | nil =>
      cases scanned
      rfl
  | cons char chars =>
      cases scanned
      exact List.countP_cons_of_neg unanswered

/-- At the end of the input the last answer is taken for a new one. -/
theorem scanChar_answer (scanned : scanChar held chars = (ret, rest)) (answered : isAnswer ret) :
    chars.countP isAnswer = rest.countP isAnswer + 1 ∨ (chars = [] ∧ rest = []) := by
  cases chars with
  | nil =>
      cases scanned
      exact .inr ⟨rfl, rfl⟩
  | cons char chars =>
      cases scanned
      exact .inl (List.countP_cons_of_pos answered)

theorem last_answered_iff (answered : isAnswer ret) :
    isAnswer (rest.getLastD ret) ↔ ∀ last ∈ rest.getLast?, isAnswer last := by
  rw [List.getLastD_eq_getLast?]
  cases rest.getLast? with
  | none => exact iff_of_true answered fun last member => absurd member (Option.not_mem_none last)
  | some last =>
      constructor
      · intro answered other same
        exact Option.mem_some.1 same ▸ answered
      · intro answered
        exact answered last rfl

theorem reaches_of_other (scanned : scanChar choice.ret choice.chars = (ret, rest))
    (unanswered : ¬ isAnswer ret) :
    Reaches indeterminate choice attempt ↔
      Reaches indeterminate ⟨choice.dialogue, ret, rest⟩ attempt := by
  unfold Reaches
  rw [scanChar_last scanned, scanChar_other scanned unanswered]

theorem reaches_of_answer (scanned : scanChar choice.ret choice.chars = (ret, rest))
    (answered : isAnswer ret) : Reaches indeterminate choice choice.dialogue.attempts := by
  unfold Reaches
  rw [scanChar_last scanned]
  rcases scanChar_answer scanned answered with counted | ended
  · rw [counted]
    omega
  · rw [ended.2]
    refine .inr ⟨answered, fun later _ upTo beyond => ?_⟩
    omega

theorem reaches_next (scanned : scanChar choice.ret choice.chars = (ret, rest))
    (answered : isAnswer ret) (later : choice.dialogue.attempts < attempt) :
    Reaches indeterminate choice attempt ↔
      AnswersReach indeterminate (choice.dialogue.attempts + 1) rest attempt := by
  unfold Reaches AnswersReach
  rw [scanChar_last scanned, last_answered_iff answered]
  rcases scanChar_answer scanned answered with counted | ended
  · rw [counted]
    grind
  · rw [ended.1, ended.2]
    grind

theorem reaches_fresh {dialogue : Dialogue} (started : dialogue.attempts ≤ attempt) :
    Reaches indeterminate ⟨dialogue, indeterminate dialogue.attempts, chars⟩ attempt ↔
      AnswersReach indeterminate dialogue.attempts chars attempt := by
  refine or_congr_right ?_
  cases chars with
  | nil =>
      constructor
      · intro reached
        obtain ⟨answered, others⟩ := reached
        refine ⟨fun last member => absurd member (Option.not_mem_none last), ?_⟩
        intro later since upTo
        rcases Nat.eq_or_lt_of_le since with same | beyond
        · exact same ▸ answered
        · exact others later since upTo beyond
      · intro reached
        exact ⟨reached.2 _ (Nat.le_refl _) started, fun later since upTo _ =>
          reached.2 later since upTo⟩
  | cons char rest =>
      have last : (char :: rest).getLast? = some (rest.getLastD char) := by
        rw [List.getLast?_cons, List.getLastD_eq_getLast?]
      rw [last, List.getLastD_cons]
      constructor
      · intro reached
        obtain ⟨answered, others⟩ := reached
        have positive := List.countP_pos_iff.2 ⟨_, List.getLastD_mem_cons, answered⟩
        refine ⟨fun _ same => Option.mem_some.1 same ▸ answered, fun later since upTo => ?_⟩
        refine others later since upTo ?_
        dsimp only at since ⊢
        omega
      · intro reached
        exact ⟨reached.1 _ rfl, fun later since upTo _ => reached.2 later since upTo⟩

end Reaches

section Returns

variable {choice : Choice} {attempt : Nat}

def Stuck (choice : Choice) : Prop :=
  .failed ∉ choice.dialogue.reads ∧ ∀ attempt, choice.dialogue.attempts ≤ attempt →
    Reaches indeterminate choice attempt → server.userauth_publickey_fromfile attempt ≠ 0

theorem stuck_pass (stuck : Stuck server indeterminate choice) :
    ∃ next, pass server opening indeterminate choice = .inl next ∧
      Stuck server indeterminate next := by
  obtain ⟨unfailing, rejecting⟩ := stuck
  obtain ⟨ret, rest, scanned⟩ : ∃ ret rest, scanChar choice.ret choice.chars = (ret, rest) :=
    ⟨_, _, rfl⟩
  cases answered : isAnswer ret with
  | true =>
      rcases pass_of_answer server opening indeterminate scanned answered unfailing with
        accepted | rejected
      · exact absurd accepted.1
          (rejecting _ (Nat.le_refl _) (reaches_of_answer scanned answered))
      · obtain ⟨_, next, stepped, counted, left⟩ := rejected
        refine ⟨_, stepped, left, fun attempt started reached => ?_⟩
        rw [← counted, reaches_fresh started, counted] at reached
        dsimp only at started
        have later : choice.dialogue.attempts < attempt := by omega
        exact rejecting attempt (Nat.le_of_lt later) ((reaches_next scanned answered later).2 reached)
  | false =>
      have unanswered : ¬ isAnswer ret := by
        rw [answered]
        decide
      refine ⟨_, pass_of_other server opening indeterminate scanned unanswered, unfailing, ?_⟩
      intro attempt started reached
      exact rejecting attempt started ((reaches_of_other scanned unanswered).2 reached)

def Progressing (attempt : Nat) (choice : Choice) : Prop :=
  .failed ∉ choice.dialogue.reads ∧ choice.dialogue.attempts ≤ attempt ∧
    Reaches indeterminate choice attempt

theorem progressing_pass (accepted : server.userauth_publickey_fromfile attempt = 0)
    (progressing : Progressing indeterminate attempt choice) :
    (∃ result, pass server opening indeterminate choice = .inr result) ∨
    ∃ next, pass server opening indeterminate choice = .inl next ∧
      Progressing indeterminate attempt next ∧
      (attempt - next.dialogue.attempts) + next.chars.length <
        (attempt - choice.dialogue.attempts) + choice.chars.length := by
  obtain ⟨unfailing, started, reached⟩ := progressing
  obtain ⟨ret, rest, scanned⟩ : ∃ ret rest, scanChar choice.ret choice.chars = (ret, rest) :=
    ⟨_, _, rfl⟩
  cases answered : isAnswer ret with
  | true =>
      rcases pass_of_answer server opening indeterminate scanned answered unfailing with
        ended | rejected
      · exact .inl ended.2
      · obtain ⟨rejected, next, stepped, counted, left⟩ := rejected
        have before : choice.dialogue.attempts ≠ attempt := fun same => rejected (same ▸ accepted)
        have later : choice.dialogue.attempts < attempt := by omega
        have kept : next.attempts ≤ attempt := by omega
        have notLonger : rest.length ≤ choice.chars.length := by
          rcases scanChar_length scanned with shorter | ended
          · exact Nat.le_of_lt shorter
          · exact ended.2 ▸ Nat.zero_le _
        rw [reaches_next scanned answered later, ← counted, ← reaches_fresh kept, counted] at reached
        refine .inr ⟨_, stepped, ⟨left, kept, reached⟩, ?_⟩
        dsimp only
        omega
  | false =>
      have unanswered : ¬ isAnswer ret := by
        rw [answered]
        decide
      rw [reaches_of_other scanned unanswered] at reached
      refine .inr ⟨_, pass_of_other server opening indeterminate scanned unanswered,
        ⟨unfailing, started, reached⟩, ?_⟩
      rcases scanChar_length scanned with shorter | ended
      · exact Nat.add_lt_add_left shorter _
      · -- Without a character left, `ret` would have to hold an answer.
        rw [ended.2] at reached
        rcases reached with earlier | held
        · exact absurd earlier (Nat.not_lt.2 started)
        · exact absurd held.1 unanswered

theorem returns_pass_iff (unfailing : .failed ∉ choice.dialogue.reads) :
    Returns (pass server opening indeterminate) choice ↔
      ∃ attempt, choice.dialogue.attempts ≤ attempt ∧ Reaches indeterminate choice attempt ∧
        server.userauth_publickey_fromfile attempt = 0 := by
  constructor
  · intro returns
    refine Classical.byContradiction fun rejecting => ?_
    have stuck : Stuck server indeterminate choice :=
      ⟨unfailing, fun attempt started reached accepted =>
        rejecting ⟨attempt, started, reached, accepted⟩⟩
    exact not_returns_of_invariant (Stuck server indeterminate)
      (fun _ => stuck_pass server opening indeterminate) stuck returns
  · intro accepted
    obtain ⟨attempt, started, reached, accepted⟩ := accepted
    exact returns_of_variant (Progressing indeterminate attempt)
      (fun choice => (attempt - choice.dialogue.attempts) + choice.chars.length)
      (fun _ => progressing_pass server opening indeterminate accepted)
      ⟨unfailing, started, reached⟩

end Returns

def AsksPassphrase : Prop :=
  ∃ auth_list, server.userauth_list = some auth_list ∧ supports "publickey" auth_list

theorem start_cases (dialogue : Dialogue) :
    (AsksPassphrase server ∧ start server dialogue = .inl dialogue) ∨
    (¬ AsksPassphrase server ∧ ∃ result, start server dialogue = .inr result) := by
  refine withAuthList_cases fun auth_list => ?_
  split
  case isTrue unsupported => exact .inr ⟨unsupported, _, rfl⟩
  case isFalse supported => exact .inl ⟨not_not.1 supported, rfl⟩

theorem returns_iff {dialogue : Dialogue} (unfailing : .failed ∉ dialogue.reads)
    (chars : List UInt8) :
    (∃ steps result,
        authenticate_user server opening indeterminate steps dialogue chars = some result) ↔
      ¬ AsksPassphrase server ∨ ∃ attempt, dialogue.attempts ≤ attempt ∧
        AnswersReach indeterminate dialogue.attempts chars attempt ∧
          server.userauth_publickey_fromfile attempt = 0 := by
  unfold authenticate_user
  rcases start_cases server dialogue with asking | early
  · obtain ⟨asking, entered⟩ := asking
    rw [entered, or_iff_right (not_not_intro asking)]
    refine returned_iff.trans ((returns_pass_iff server opening indeterminate unfailing).trans ?_)
    refine exists_congr fun attempt => and_congr_right fun started => ?_
    exact and_congr_left fun _ => reaches_fresh started
  · obtain ⟨silent, result, ended⟩ := early
    rw [ended]
    exact iff_of_true ⟨0, result, rfl⟩ (.inl silent)

end ExecRsa

/-- Whatever the user has typed before the input ended, `authenticate_user` returns exactly
if it does not come to its loop or the server accepts an attempt that is made: in
`sftp_get` any attempt, in `exec_rsa` one that the answers typed come to. -/
theorem authenticate_user_returns_iff (server : Server) (opening : Nat → Opening)
    (indeterminate : Nat → UInt8) (console : Console) (bytes chars : List UInt8) :
    ((∃ steps result, SftpGet.authenticate_user server opening steps
        (.begin console bytes) = some result) ↔
      ¬ SftpGet.AsksPassword server ∨ ∃ attempt, server.userauth_password attempt = 0) ∧
    ((∃ steps result, ExecRsa.authenticate_user server opening indeterminate steps
        (.begin console bytes) chars = some result) ↔
      ¬ ExecRsa.AsksPassphrase server ∨ ∃ attempt,
        ExecRsa.AnswersReach indeterminate 0 chars attempt ∧
          server.userauth_publickey_fromfile attempt = 0) := by
  have unfailing : .failed ∉ (Dialogue.begin console bytes).reads := failed_not_mem_bytes bytes
  constructor
  · rw [SftpGet.returns_iff server opening unfailing]
    refine or_congr_right (exists_congr fun attempt => ?_)
    exact and_iff_right (Nat.zero_le attempt)
  · rw [ExecRsa.returns_iff server opening indeterminate unfailing chars]
    refine or_congr_right (exists_congr fun attempt => ?_)
    exact and_iff_right (Nat.zero_le attempt)

def rejecting : Server where
  userauth_list := some (ascii "publickey,password")
  userauth_authenticated := false
  session_last_error := []
  userauth_publickey_fromfile _ := -18
  userauth_password _ := -18

/-- The input has ended before the first question. -/
theorem rejected_user_is_asked_forever :
    (¬ ∃ steps result, SftpGet.authenticate_user rejecting (fun _ => ⟨none, false⟩) steps
        (.begin ⟨⟨ECHO, []⟩, fun _ => false⟩ []) = some result) ∧
      ¬ ∃ steps result, ExecRsa.authenticate_user rejecting (fun _ => ⟨none, false⟩) (fun _ => 0)
        steps (.begin ⟨⟨ECHO, []⟩, fun _ => false⟩ []) [] = some result := by
  constructor
  · rw [SftpGet.returns_iff rejecting _ (failed_not_mem_bytes [])]
    intro returned
    cases returned with
    | inl silent => exact silent ⟨_, rfl, by decide, by decide⟩
    | inr accepted =>
        obtain ⟨attempt, _, accepted⟩ := accepted
        cases accepted
  · rw [ExecRsa.returns_iff rejecting _ _ (failed_not_mem_bytes []) []]
    intro returned
    cases returned with
    | inl silent => exact silent ⟨_, rfl, by decide⟩
    | inr accepted =>
        obtain ⟨attempt, _, _, accepted⟩ := accepted
        cases accepted

end NetworkServices.Ssh
