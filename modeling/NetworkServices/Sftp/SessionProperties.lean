import NetworkServices.Ssh.SessionProperties
import Mathlib.Algebra.Group.Nat.Defs

/-! The session of `sftp_get.c`. What it leaves behind is the handle of the remote file and the
block of its path, and it can read only through a handle that fits into an `int`. -/

set_option autoImplicit false

namespace NetworkServices.Ssh.Session.SftpGet

open NetworkServices.SftpGet (totalPathToFile)

section Authentication

variable {sockfd : Nat} {session : Address} {world : World}

theorem meets_attempt (begun : Begun sockfd session [] world) (cd : ConnectionData) :
    Meets interface Fails
      (fun world => Sum.elim (fun _ => Begun sockfd session [] world) fun err =>
        Begun sockfd session [] world ∧ (err < 0 ∨ world.authenticated = true))
      world (attempt session cd ()) := by
  refine meets_request begun.trusted fun password => ?_
  cases password with
  | none => exact meets_print ⟨begun.print _ _, .inl (by decide)⟩
  | some password =>
      refine meets_ask ⟨begun.open, begun.trusted⟩ fun err => ?_
      obtain ⟨held, connected, started, disconnected, trusted⟩ := begun
      have tried : Begun sockfd session []
          (after world (.userauth_password session (username cd) password) err) :=
        ⟨held, connected, started, disconnected, trusted⟩
      split
      · next accepted =>
          refine meets_print ⟨tried.print _ _, .inr ?_⟩
          simp [after, accepted]
      · exact meets_print (tried.print _ _)

theorem meets_byPassword (begun : Begun sockfd session [] world) (passes : Nat)
    (cd : ConnectionData) (auth_list : CString) :
    Meets interface Fails
      (fun world err => Begun sockfd session [] world ∧ (err < 0 ∨ world.authenticated = true))
      world (byPassword passes session cd auth_list) := by
  unfold byPassword
  split
  · exact meets_print ⟨begun.print _ _, .inl (by decide)⟩
  · refine meets_loop (fun world _ => Begun sockfd session [] world) ?_ begun passes
    intro world attempts begun
    exact meets_attempt begun cd

theorem authenticates_authenticate_user (passes : Nat) :
    Authenticates (authenticate_user passes) := by
  intro sockfd session cd world begun
  refine meets_withMethods begun (fun world begun => ⟨begun, .inl (by decide)⟩) fun auth_list => ?_
  split
  · refine meets_ask ⟨begun.open, begun.trusted⟩ fun err => ?_
    obtain ⟨held, connected, started, disconnected, trusted⟩ := begun
    have tried : Begun sockfd session [] (after world (.userauth_publickey_fromfile session
        (username cd) (ascii "public.key") (ascii "private.key") (ascii "passphrase")) err) :=
      ⟨held, connected, started, disconnected, trusted⟩
    split
    · next accepted =>
        refine ⟨tried, .inr ?_⟩
        simp [after, accepted]
    · exact meets_byPassword tried passes cd auth_list
  · exact meets_byPassword begun passes cd auth_list

end Authentication

section Transfer

variable {sockfd : Nat} {session sftp handle : Address} {rest : List Resource} {world : World}

theorem meets_list (begun : Begun sockfd session rest world)
    (opened : .directory handle ∈ rest) (passes : Nat) (held : CString × CString) :
    Meets interface Fails (fun world _ => Begun sockfd session rest world) world
      (Program.loop (list handle) passes held) := by
  refine meets_loop (fun world _ => Begun sockfd session rest world) ?_ begun passes
  intro world held begun
  refine meets_request (begun.member opened) fun answer => ?_
  refine meets_print (meets_pure.mpr ?_)
  by_cases positive : answer.bytes > 0
  · rw [if_pos positive]
    exact begun.print _ _
  · rw [if_neg positive]
    exact begun.print _ _

/-- The loop ends with a fault only when the pointer was not the one that is open. -/
theorem meets_copy {pointer : Address} {file : Int32} (begun : Begun sockfd session rest world)
    (opened : .file pointer ∈ rest) (writable : file < 0 ∨ .localFile file ∈ rest) (passes : Nat) :
    Meets interface Fails
      (fun world fault => Begun sockfd session rest world ∧
        ∀ stray ∈ fault, stray = .strayPointer ∧ widened (truncated pointer) ≠ pointer) world
      (Program.loop (copy (widened (truncated pointer)) file) passes ()) := by
  refine meets_loop (fun world _ => Begun sockfd session rest world) ?_ begun passes
  intro world _ begun
  refine meets_call.mpr ⟨⟨pointer, begun.member opened, rfl⟩, fun answer promised => ?_⟩
  have unfaulted : Begun sockfd session rest world ∧ ∀ stray ∈ (none : Option Fault),
      stray = .strayPointer ∧ widened (truncated pointer) ≠ pointer := ⟨begun, nofun⟩
  cases answer with
  | none =>
      refine ⟨begun, fun stray same => ?_⟩
      cases same
      refine ⟨rfl, fun same => promised rfl ?_⟩
      rw [same]
      exact begun.member opened
  | some result =>
      cases result with
      | failed => exact unfaulted
      | finished => exact unfaulted
      | data bytes =>
          dsimp only
          split
          · exact meets_ask (writable.imp_right begun.member) fun _ => begun
          · exact unfaulted

theorem Begun.failSftp {Result : Type} {post : World → Result → Prop} {caller : CString}
    (begun : Begun sockfd session rest world) (initialised : .sftp sftp ∈ rest) :
    Meets interface Fails post world (failSftp session sftp caller) :=
  meets_failSftp begun.session_mem ⟨begun.member initialised, begun.disconnected⟩ begun.fails

end Transfer

/-- What is left behind: the path, and the handle of the remote file. -/
def Leaves (held : List Resource) : Prop :=
  ∃ pointer handle, held = [.block pointer, .file handle]

/-- What there is where a process faults: no memory, or a pointer that an `int` does not hold. -/
def Faulted (world : World) : Fault → Prop
  | .nullPointer => world.exhausted = true
  | .strayPointer => ∃ pointer, .file pointer ∈ world.held ∧ widened (truncated pointer) ≠ pointer

/-- Behind the copy loop, with the descriptor that `open` returned. -/
theorem meets_shutdown {sockfd : Nat} {session sftp pointer handle : Address} {world : World}
    {cd : Option Allocated} {post : World → Fault → Prop}
    (begun : Begun sockfd session [.sftp sftp, .block pointer, .file handle] world) :
    Meets interface (Exits Leaves cd) post world (do
      let err ← .invoke (Call.sftp_shutdown sftp)
      if err < 0 then failSftp session sftp (ascii "libssh2_sftp_shutdown()")
      else finish sockfd session) := by
  refine meets_ask ⟨begun.member (.head _), begun.disconnected⟩ fun err => ?_
  rw [after, World.release]
  split
  · exact Fails.lift (Begun.failSftp begun (.head _))
  · have closed := @Begun.release sockfd session _ _ begun (.sftp sftp) (by simp)
    rw [List.erase_cons_head] at closed
    exact meets_finish closed ⟨pointer, handle, rfl⟩

theorem meets_closeFile {sockfd : Nat} {session sftp pointer handle : Address} {file : Int32}
    {rest : List Resource} {world : World} {cd : Option Allocated} {post : World → Fault → Prop}
    (begun : Begun sockfd session rest world) (writable : file < 0 ∨ .localFile file ∈ rest)
    (left : rest.erase (.localFile file) = [.sftp sftp, .block pointer, .file handle]) :
    Meets interface (Exits Leaves cd) post world (do
      let closed ← .invoke (Call.closeFile file)
      if closed = 0 then fprintf .stdout (ascii "File succesfully closed!\n") else pure ()
      let err ← .invoke (Call.sftp_shutdown sftp)
      if err < 0 then failSftp session sftp (ascii "libssh2_sftp_shutdown()")
      else finish sockfd session) := by
  refine meets_ask (writable.imp_right begun.member) fun closed => ?_
  have closed := @Begun.release sockfd session _ _ begun (.localFile file) (by simp)
  rw [left] at closed
  dsimp only
  split
  · exact meets_print (meets_shutdown (closed.print _ _))
  · exact meets_shutdown closed

/-- The copy loop, and what follows it. -/
theorem meets_transfer {sockfd : Nat} {session sftp pointer handle : Address} {file : Int32}
    {rest : List Resource} {world : World} {cd : Option Allocated}
    (begun : Begun sockfd session rest world) (opened : .file handle ∈ rest)
    (writable : file < 0 ∨ .localFile file ∈ rest)
    (left : rest.erase (.localFile file) = [.sftp sftp, .block pointer, .file handle])
    (passes : Nat) :
    Meets interface (Exits Leaves cd) Faulted world (do
      match ← Program.loop (copy (widened (truncated handle)) file) passes () with
      | some fault => return fault
      | none =>
          let closed ← .invoke (Call.closeFile file)
          if closed = 0 then fprintf .stdout (ascii "File succesfully closed!\n") else pure ()
          let err ← .invoke (Call.sftp_shutdown sftp)
          if err < 0 then failSftp session sftp (ascii "libssh2_sftp_shutdown()")
          else finish sockfd session) := by
  refine Meets.bind (Fails.lift (meets_copy begun opened writable passes)) ?_
  rintro world outcome ⟨begun, faults⟩
  cases outcome with
  | none => exact meets_closeFile begun writable left
  | some fault =>
      obtain ⟨rfl, stray⟩ := faults fault rfl
      exact ⟨handle, begun.member opened, stray⟩

theorem meets_download {sockfd : Nat} {session sftp : Address} {pointer : Address} {world : World}
    (begun : Begun sockfd session [.sftp sftp, .block pointer] world) (passes : Nat)
    (memory : Memory) (filename : CString) (data : ConnectionData) (cd : Option Allocated) :
    Meets interface (Exits Leaves cd) Faulted world
      (download passes memory filename sockfd session sftp data) := by
  refine meets_print (meets_ask trivial fun word => meets_print ?_)
  replace begun := (begun.print .stdout (ascii "Enter file name you want to download.\n")).print
    .stdout (ascii "path to file: " ++
      totalPathToFile memory.block (username data) (word.getD filename) ++ ascii "\n")
  refine meets_ask ⟨begun.member (.head _), begun.disconnected⟩ fun opened => ?_
  cases opened with
  | none =>
      have zero : truncated (Option.getD none 0) = 0 := by decide
      dsimp only
      rw [if_pos zero]
      exact Fails.lift (Begun.failSftp begun (.head _))
  | some handle =>
      replace begun := begun.acquire (.file handle)
      dsimp only
      split
      · exact Fails.lift (Begun.failSftp begun (.head _))
      · refine meets_print (meets_ask trivial fun file => ?_)
        replace begun := begun.print .stderr
          (ascii "libssh2_sftp_open() is done, now receive data!\n")
        by_cases missing : file < 0
        · have unchanged : ∀ world, after world (.open (word.getD filename)) file = world :=
            fun world => if_pos missing
          rw [unchanged]
          exact @meets_transfer _ _ sftp pointer handle _ _ _ _ begun (by simp) (.inl missing)
            (by simp) passes
        · have created : ∀ world, after world (.open (word.getD filename)) file =
              world.acquire (.localFile file) := fun world => if_neg missing
          rw [created]
          replace begun := begun.acquire (.localFile file)
          exact @meets_transfer _ _ sftp pointer handle _ _ _ _ begun (by simp) (.inr (by simp))
            (by simp) passes

theorem meets_main (passes : Nat) (memory : Memory) (cd : Option Allocated) :
    Meets interface (Exits Leaves cd) Faulted (.start cd memory.accept) (main passes memory cd) := by
  refine Meets.bind (meets_begin (authenticates_authenticate_user passes)) ?_
  intro world result begins
  obtain ⟨sockfd, session, data⟩ := result
  obtain ⟨begun, authenticated⟩ := begins
  refine meets_request ⟨begun.open, begun.trusted, authenticated⟩ fun answer => ?_
  cases answer with
  | none => exact meets_print (Fails.lift (begun.print _ _).fails)
  | some sftp =>
      replace begun := begun.acquire (.sftp sftp)
      refine meets_request ⟨begun.member (by simp), begun.disconnected⟩ fun answer => ?_
      cases answer with
      | none => exact Fails.lift (Begun.failSftp begun (by simp))
      | some handle =>
          replace begun := begun.acquire (.directory handle)
          refine Meets.bind (Fails.lift (meets_list begun (by simp) passes _)) ?_
          intro world listed begun
          obtain ⟨filename, bytes⟩ := listed
          dsimp only
          split
          · exact Fails.lift (Begun.failSftp begun (by simp))
          · refine meets_ask (begun.member (by simp)) fun err => ?_
            rw [after, World.release]
            split
            · exact Fails.lift (Begun.failSftp begun (by simp))
            · have closed := @Begun.release sockfd session _ _ begun (.directory handle) (by simp)
              refine meets_request trivial fun answer => ?_
              cases answer with
              | none => rfl
              | some pointer =>
                  have stored := closed.acquire (.block pointer)
                  have left : ([] ++ [Resource.sftp sftp] ++ [Resource.directory handle]).erase
                      (.directory handle) ++ [Resource.block pointer] =
                      [.sftp sftp, .block pointer] := by simp
                  rw [left] at stored
                  exact meets_download stored passes memory filename data cd

section Reasons

variable {accept : CString}

theorem justified_byPassword (passes : Nat) (session : Address) (cd : ConnectionData)
    {auth_list : CString} (supported : supports "password" auth_list = true) :
    Justified (Failing accept "password") (fun err => ¬ err < 0)
      (byPassword passes session cd auth_list) := by
  rw [byPassword, if_neg (fun missing => missing supported)]
  refine justified_loop (fun _ => ?_) passes ()
  intro answer
  cases answer with
  | none => exact .inl rfl
  | some password =>
      refine .inr (justified_ask fun err => ?_)
      split
      · refine fun _ => .inr ?_
        change ¬ (0 : Int32) < 0
        decide
      · exact fun _ => .inr trivial

theorem justified_authenticate_user (passes : Nat) (session : Address) (cd : ConnectionData) :
    Justified (Failing accept "password") (fun err => ¬ err < 0)
      (authenticate_user passes session cd) := by
  refine justified_withMethods fun auth_list supported => ?_
  have byPassword := @justified_byPassword accept passes session cd auth_list supported
  split
  · refine justified_ask fun err => ?_
    split
    · change ¬ (0 : Int32) < 0
      decide
    · exact byPassword
  · exact byPassword

theorem justified_list (handle : Address) (held : CString × CString) :
    Justified (Failing accept "password") (Sum.elim (fun _ => True) fun read => ¬ read.2 < 0)
      (list handle held) := by
  intro answer
  by_cases negative : answer.bytes < 0
  · exact .inl negative
  · refine .inr fun _ => .inr ?_
    by_cases positive : answer.bytes > 0
    · rw [if_pos positive]
      trivial
    · rw [if_neg positive]
      exact negative

theorem justified_copy (handle : Address) (file : Int32) (passes : Nat) :
    Justified (Failing accept "password") (fun _ => True)
      (Program.loop (copy handle file) passes ()) := by
  refine justified_loop (fun _ => ?_) passes ()
  intro answer
  refine .inr ?_
  cases answer with
  | none => trivial
  | some result =>
      cases result with
      | failed => trivial
      | finished => trivial
      | data bytes =>
          dsimp only
          split
          · exact fun _ => .inr trivial
          · trivial

theorem justified_download (passes : Nat) (memory : Memory) (filename : CString) (sockfd : Nat)
    (session sftp : Address) (cd : ConnectionData) :
    Justified (Failing accept "password") (fun _ => True)
      (download passes memory filename sockfd session sftp cd) := by
  refine fun _ => .inr (justified_ask fun word => fun _ => .inr (justified_check fun opened => ?_))
  by_cases refused : truncated (opened.getD 0) = 0
  · exact .inl refused
  · refine .inr ?_
    dsimp only
    rw [if_neg refused]
    refine fun _ => .inr (justified_ask fun file => ?_)
    refine (justified_copy _ file passes).bind fun outcome _ => ?_
    cases outcome with
    | some fault => trivial
    | none =>
        have shutdown : Justified (Failing accept "password") (fun _ : Fault => True) (do
            let err ← .invoke (Call.sftp_shutdown sftp)
            if err < 0 then failSftp session sftp (ascii "libssh2_sftp_shutdown()")
            else finish sockfd session) := by
          refine justified_check fun err => ?_
          by_cases negative : err < 0
          · exact .inl negative
          · refine .inr ?_
            rw [if_neg negative]
            exact justified_finish sockfd session
        refine justified_ask fun closed => ?_
        split
        · exact fun _ => .inr shutdown
        · exact shutdown

theorem justified_main (passes : Nat) (memory : Memory) (allocated : Allocated) :
    Justified (Failing memory.accept "password") (fun _ => True)
      (main passes memory (some allocated)) := by
  refine (justified_begin (justified_authenticate_user passes)).bind fun result _ => ?_
  obtain ⟨sockfd, session, data⟩ := result
  intro answer
  cases answer with
  | none => exact .inl rfl
  | some sftp =>
      refine .inr fun answer => ?_
      cases answer with
      | none => exact .inl rfl
      | some handle =>
          refine .inr ((justified_loop (justified_list handle) passes _).bind fun read listed => ?_)
          obtain ⟨filename, bytes⟩ := read
          have positive : ¬ bytes < 0 := listed
          show Justified _ _ (if bytes < 0 then _ else _)
          rw [if_neg positive]
          refine justified_check fun err => ?_
          by_cases negative : err < 0
          · exact .inl negative
          · refine .inr ?_
            rw [if_neg negative]
            intro answer
            cases answer with
            | none => exact .inr trivial
            | some pointer =>
                exact .inr (justified_download passes memory filename sockfd session sftp data)

end Reasons

end NetworkServices.Ssh.Session.SftpGet
