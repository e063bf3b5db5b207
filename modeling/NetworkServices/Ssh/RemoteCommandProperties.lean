import NetworkServices.Ssh.SessionProperties

/-! The session of `exec_rsa.c`. It names the user and tries the key only in front of a server
that was accepted, and behind a successful end nothing is left open. -/

set_option autoImplicit false

namespace NetworkServices.Ssh.Session.ExecRsa

section Authentication

variable {sockfd : Nat} {session : Address} {world : World}

theorem meets_choose (begun : Begun sockfd session [] world) (ret : UInt8) :
    Meets interface Fails (fun world _ => Begun sockfd session [] world) world (choose ret) := by
  refine meets_ask begun.trusted fun char => ?_
  dsimp only
  split
  · refine meets_request begun.trusted fun password => ?_
    cases password with
    | some password => exact begun
    | none => exact meets_print (begun.print _ _)
  · split
    · exact begun
    · exact begun

/-- Before the password is known, and behind it. -/
theorem meets_chosen (begun : Begun sockfd session [] world) (passes : Nat) (ret : UInt8) :
    Meets interface Fails (fun world _ => Begun sockfd session [] world) world
      (Program.loop choose passes ret) := by
  refine meets_loop (fun world _ => Begun sockfd session [] world) ?_ begun passes
  intro world ret begun
  refine (meets_choose begun ret).mono (fun _ _ fails => fails) fun world result begun => ?_
  cases result with
  | inl ret => exact begun
  | inr password => exact begun

theorem meets_attempt (begun : Begun sockfd session [] world) (passes : Nat)
    (indeterminate : Nat → UInt8) (cd : ConnectionData) (attempts : Nat) :
    Meets interface Fails
      (fun world => Sum.elim (fun _ => Begun sockfd session [] world) fun err =>
        Begun sockfd session [] world ∧ (err < 0 ∨ world.authenticated = true))
      world (attempt passes indeterminate session cd attempts) := by
  refine meets_print (Meets.bind (meets_chosen (begun.print _ _) passes _)
    fun world password begun => ?_)
  cases password with
  | none => exact ⟨begun, .inl (by decide)⟩
  | some password =>
      refine meets_ask ⟨begun.open, begun.trusted⟩ fun err => ?_
      obtain ⟨held, connected, started, disconnected, trusted⟩ := begun
      have tried : Begun sockfd session [] (after world (.userauth_publickey_fromfile session
          (username cd) (ascii "./public.key") (ascii "./private.key") password) err) :=
        ⟨held, connected, started, disconnected, trusted⟩
      split
      · next accepted =>
          refine meets_print ⟨tried.print _ _, .inr ?_⟩
          simp [after, accepted]
      · exact meets_print (tried.print _ _)

theorem authenticates_authenticate_user (passes : Nat) (indeterminate : Nat → UInt8) :
    Authenticates (authenticate_user passes indeterminate) := by
  intro sockfd session cd world begun
  refine meets_withMethods begun (fun world begun => ⟨begun, .inl (by decide)⟩) fun auth_list => ?_
  split
  · exact meets_print ⟨begun.print _ _, .inl (by decide)⟩
  · refine meets_loop (fun world _ => Begun sockfd session [] world) ?_ begun passes
    intro world attempts begun
    exact meets_attempt begun passes indeterminate cd attempts

end Authentication

theorem meets_receive {sockfd : Nat} {session channel : Address} {world : World}
    (begun : Begun sockfd session [.channel channel] world) (passes : Nat) (buf : List UInt8) :
    Meets interface Fails (fun world _ => Begun sockfd session [.channel channel] world) world
      (Program.loop (receive channel) passes buf) := by
  refine meets_loop (fun world _ => Begun sockfd session [.channel channel] world) ?_ begun passes
  intro world buf begun
  refine meets_request ⟨begun.member (.head _), begun.disconnected⟩ fun answer => ?_
  cases answer with
  | failed => exact begun
  | finished => exact begun
  | data bytes =>
      dsimp only
      split
      · exact begun
      · exact begun

/-- The release of the channel, and what follows it. -/
theorem meets_release {sockfd : Nat} {session channel : Address} {world : World}
    {cd : Option Allocated} {post : World → Unit → Prop}
    (opened : Begun sockfd session [.channel channel] world) :
    Meets interface (Exits (· = []) cd) post world (do
      let err ← .invoke (Call.channel_free channel)
      if err < 0 then failSsh session (ascii "libssh2_channel_free()")
      else finish sockfd session) := by
  refine meets_ask ⟨opened.member (.head _), opened.disconnected⟩ fun err => ?_
  rw [after, World.release]
  split
  · exact Fails.lift opened.fail
  · have closed := @Begun.release sockfd session _ _ opened (.channel channel) (by simp)
    rw [List.erase_cons_head] at closed
    exact meets_finish closed rfl

theorem meets_main (passes : Nat) (accept : CString) (indeterminate : Nat → UInt8)
    (cd : Option Allocated) :
    Meets interface (Exits (· = []) cd) (fun _ _ => False) (.start cd accept)
      (main passes accept indeterminate cd) := by
  refine Meets.bind (meets_begin (authenticates_authenticate_user passes indeterminate)) ?_
  intro world result begins
  obtain ⟨sockfd, session, data⟩ := result
  obtain ⟨begun, authenticated⟩ := begins
  refine meets_request ⟨begun.open, begun.trusted, authenticated⟩ fun answer => ?_
  cases answer with
  | none => exact Fails.lift begun.fail
  | some channel =>
      have opened : Begun sockfd session [.channel channel] (world.acquire (.channel channel)) :=
        begun.acquire _
      refine meets_ask ⟨opened.member (.head _), opened.disconnected⟩ fun err => ?_
      split
      · exact Fails.lift opened.fail
      · refine Meets.bind (Fails.lift (meets_receive opened passes [])) fun world received opened => ?_
        cases received with
        | none => exact Fails.lift opened.fail
        | some buf =>
            refine meets_print (meets_print (meets_print ?_))
            replace opened := ((opened.print .stdout (ascii "Received:\n")).print .stdout buf).print
              .stdout (ascii "\n")
            refine meets_ask ⟨opened.member (.head _), opened.disconnected⟩ fun status => ?_
            refine meets_print ?_
            replace opened := opened.print .stdout
              (ascii "Exit status: " ++ signedDecimal status ++ ascii "\n")
            refine meets_ask ⟨opened.member (.head _), opened.disconnected⟩ fun err => ?_
            split
            · exact Fails.lift opened.fail
            · exact meets_release opened

section Reasons

variable {accept : CString}

theorem justified_choose (ret : UInt8) :
    Justified (Failing accept "publickey") (Sum.elim (fun _ => True) (· ≠ none)) (choose ret) := by
  refine justified_ask fun char => ?_
  dsimp only
  split
  · intro answer
    cases answer with
    | none => exact .inl rfl
    | some password => exact .inr (Option.some_ne_none password)
  · split
    · exact Option.some_ne_none []
    · trivial

theorem justified_authenticate_user (passes : Nat) (indeterminate : Nat → UInt8)
    (session : Address) (cd : ConnectionData) :
    Justified (Failing accept "publickey") (fun err => ¬ err < 0)
      (authenticate_user passes indeterminate session cd) := by
  refine justified_withMethods fun auth_list supported => ?_
  rw [if_neg (fun missing => missing supported)]
  refine justified_loop (fun attempts => ?_) passes 0
  refine fun _ => .inr ?_
  refine (justified_loop justified_choose passes _).bind fun password known => ?_
  cases password with
  | none => exact absurd rfl known
  | some password =>
      refine justified_ask fun err => ?_
      split
      · refine fun _ => .inr ?_
        change ¬ (0 : Int32) < 0
        decide
      · exact fun _ => .inr trivial

theorem justified_receive (channel : Address) (buf : List UInt8) :
    Justified (Failing accept "publickey") (Sum.elim (fun _ => True) (· ≠ none))
      (receive channel buf) := by
  intro answer
  cases answer with
  | failed => exact .inl rfl
  | finished => exact .inr (Option.some_ne_none buf)
  | data bytes =>
      refine .inr ?_
      dsimp only
      split
      · trivial
      · exact Option.some_ne_none (buf ++ bytes)

theorem justified_main (passes : Nat) (indeterminate : Nat → UInt8) (allocated : Allocated) :
    Justified (Failing accept "publickey") (fun _ => True)
      (main passes accept indeterminate (some allocated)) := by
  refine (justified_begin (justified_authenticate_user passes indeterminate)).bind fun result _ => ?_
  obtain ⟨sockfd, session, data⟩ := result
  intro answer
  cases answer with
  | none => exact .inl rfl
  | some channel =>
      refine .inr (justified_check fun err => ?_)
      by_cases negative : err < 0
      · exact .inl negative
      · refine .inr ?_
        rw [if_neg negative]
        refine (justified_loop (justified_receive channel) passes []).bind fun received known => ?_
        cases received with
        | none => exact absurd rfl known
        | some buf =>
            refine fun _ => .inr fun _ => .inr fun _ => .inr (justified_ask fun status => ?_)
            refine fun _ => .inr (justified_check fun err => ?_)
            by_cases negative : err < 0
            · exact .inl negative
            · refine .inr ?_
              rw [if_neg negative]
              refine justified_check fun err => ?_
              by_cases negative : err < 0
              · exact .inl negative
              · refine .inr ?_
                rw [if_neg negative]
                exact justified_finish sockfd session

end Reasons

/-- Every call of a run is allowed in its place, and an exit leaves nothing behind or comes
from a failure, behind which the connection is still open. A failure has its reason in the run,
where the arguments were complete. -/
theorem exec_session {passes : Nat} {accept : CString} {indeterminate : Nat → UInt8}
    {cd : Option Allocated} {trace : List (Exchange Call Answer)} {last : World}
    {left : Process Unit}
    (run : Reaches interface (.start cd accept) (main passes accept indeterminate cd) trace last
      left) :
    (∀ request next, left = .call request next → may last request) ∧
      (∀ status, left = .exit status → Exits (· = []) cd last status) ∧
      (left = .exit .failure → cd = none ∨
        ∃ exchange ∈ trace, Failing accept "publickey" exchange) := by
  have rest := (meets_main passes accept indeterminate cd).reaches run
  refine ⟨?_, ?_, ?_⟩
  · rintro request next rfl
    exact rest.1
  · rintro status rfl
    exact rest
  · rintro rfl
    cases cd with
    | none => exact .inl rfl
    | some allocated =>
        exact .inr ((justified_main passes indeterminate allocated).failure run)

theorem exec_session_success :
    Exits (· = []) (some user)
      (interface.play (fun _ => obliging 5) 60 (.start (some user) [])
        (main 5 [] (fun _ => 0) (some user))).2.1 .success :=
  (@exec_session 5 [] (fun _ => 0) (some user) _ _ _
    (@Interface.reaches_play _ _ _ _ interface (fun _ => obliging 5) (obliging_honest 5) 60 _
      _)).2.1 .success rfl

end NetworkServices.Ssh.Session.ExecRsa
