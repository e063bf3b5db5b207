import NetworkServices.Sftp.Session
import NetworkServices.Ssh.RemoteCommand

/-! What a session of `sftp_get.c` or `exec_rsa.c` keeps to in front of any server: the library
is called in order and only on what exists, and the user is asked for nothing and named to
nobody before the fingerprint of the server has been accepted. -/

set_option autoImplicit false

namespace NetworkServices.Ssh.Session

inductive Resource where
  | connectionData
  | socket (sockfd : Nat)
  | session (session : Address)
  | channel (channel : Address)
  | sftp (sftp : Address)
  | directory (handle : Address)
  | file (handle : Address)
  | block (pointer : Address)
  | localFile (file : Int32)
  deriving DecidableEq

/-- What the calls of a run have come to. -/
structure World where
  held : List Resource
  accept : CString
  connected : Option Nat := none
  started : Bool := false
  hash : Option (Vector UInt8 16) := none
  /-- The fingerprint of the server has been printed. -/
  shown : Bool := false
  asked : Bool := false
  authenticated : Bool := false
  disconnected : Bool := false
  /-- There was no memory. -/
  exhausted : Bool := false

def World.start (cd : Option Allocated) (accept : CString) : World where
  held := if cd.isSome then [.connectionData] else []
  accept

/-- The fingerprint was printed, `fgets` was called, and what it left says yes. -/
def World.Trusted (world : World) : Prop :=
  world.shown = true ∧ world.asked = true ∧ saysYes world.accept = true

/-- A session that is open for requests. -/
def World.Open (world : World) (session : Address) : Prop :=
  .session session ∈ world.held ∧ world.started = true ∧ world.disconnected = false

def may (world : World) : Call → Prop
  | .socket | .session_init | .fprintf _ _ | .scanf_word | .malloc _ | .open _ => True
  | .connect sockfd _ _ => .socket sockfd ∈ world.held ∧ world.connected = none
  | .session_startup session sockfd =>
      .session session ∈ world.held ∧ world.started = false ∧
        .socket sockfd ∈ world.held ∧ world.connected = some sockfd
  | .session_last_error session | .session_last_errno session => .session session ∈ world.held
  | .session_disconnect session | .hostkey_hash session => world.Open session
  | .session_free session => .session session ∈ world.held ∧ world.disconnected = true
  | .fgets => world.shown = true
  | .userauth_list session _ | .userauth_authenticated session
  | .userauth_publickey_fromfile session _ _ _ _ | .userauth_password session _ _ =>
      world.Open session ∧ world.Trusted
  | .get_password | .scanf_char => world.Trusted
  | .channel_open_session session | .sftp_init session =>
      world.Open session ∧ world.Trusted ∧ world.authenticated = true
  | .channel_exec channel _ | .channel_read channel _ | .channel_get_exit_status channel
  | .channel_close channel | .channel_free channel =>
      .channel channel ∈ world.held ∧ world.disconnected = false
  | .sftp_last_error sftp | .sftp_opendir sftp _ | .sftp_open sftp _ | .sftp_shutdown sftp =>
      .sftp sftp ∈ world.held ∧ world.disconnected = false
  | .sftp_readdir handle | .sftp_closedir handle => .directory handle ∈ world.held
  | .sftp_read handle _ =>
      ∃ pointer, .file pointer ∈ world.held ∧
        handle = SftpGet.widened (SftpGet.truncated pointer)
  | .write file _ | .closeFile file => file < 0 ∨ .localFile file ∈ world.held
  | .close sockfd => .socket sockfd ∈ world.held
  | .free_connection_data => .connectionData ∈ world.held

def World.acquire (world : World) (resource : Resource) : World :=
  { world with held := world.held ++ [resource] }

/-- The resource is given back unless the call has failed. -/
def World.release (world : World) (resource : Resource) (err : Int32) : World :=
  if err < 0 then world else { world with held := world.held.erase resource }

def World.acquire? (world : World) (resource : Address → Resource) : Option Address → World
  | some pointer => world.acquire (resource pointer)
  | none => world

def after (world : World) : (request : Call) → Answer request → World
  | .socket, answer =>
      match answer with
      | some sockfd => world.acquire (.socket sockfd)
      | none => world
  | .connect sockfd _ _, answer =>
      if answer then { world with connected := some sockfd } else world
  | .session_init, answer => world.acquire? .session answer
  | .session_startup _ _, answer => if answer < 0 then world else { world with started := true }
  | .hostkey_hash _, answer => { world with hash := answer }
  | .fprintf _ text, _ =>
      { world with shown := world.shown || decide (world.hash.map fingerprint = some text) }
  | .fgets, answer => { world with accept := answer.left world.accept, asked := true }
  | .userauth_publickey_fromfile _ _ _ _ _, answer | .userauth_password _ _ _, answer =>
      { world with authenticated := world.authenticated || decide (answer = 0) }
  | .channel_open_session _, answer => world.acquire? .channel answer
  | .channel_free channel, answer => world.release (.channel channel) answer
  | .sftp_init _, answer => world.acquire? .sftp answer
  | .sftp_opendir _ _, answer => world.acquire? .directory answer
  | .sftp_closedir handle, answer => world.release (.directory handle) answer
  | .malloc _, answer =>
      match answer with
      | some pointer => world.acquire (.block pointer)
      | none => { world with exhausted := true }
  | .sftp_open _ _, answer => world.acquire? .file answer
  | .open _, answer => if answer < 0 then world else world.acquire (.localFile answer)
  | .closeFile file, _ => { world with held := world.held.erase (.localFile file) }
  | .sftp_shutdown sftp, answer => world.release (.sftp sftp) answer
  | .session_disconnect _, answer =>
      if answer < 0 then world else { world with disconnected := true }
  | .session_free session, answer => world.release (.session session) answer
  | .close sockfd, _ => { world with held := world.held.erase (.socket sockfd) }
  | .free_connection_data, _ => { world with held := world.held.erase .connectionData }
  | .session_last_error _, _ | .session_last_errno _, _ | .userauth_list _ _, _
  | .userauth_authenticated _, _ | .get_password, _ | .scanf_char, _ | .scanf_word, _
  | .channel_exec _ _, _ | .channel_read _ _, _ | .channel_get_exit_status _, _
  | .channel_close _, _ | .sftp_last_error _, _ | .sftp_readdir _, _ | .sftp_read _ _, _
  | .write _ _, _ => world

/-- The library and the user may answer anything. A read through a handle that is open does not
fault. -/
def promise (world : World) : (request : Call) → Answer request → Prop
  | .sftp_read handle _, answer => answer = none → .file handle ∉ world.held
  | _, _ => True

def interface : Interface Call Answer World where
  may := may
  promise := promise
  after := after

/-- An exit in the middle: the process frees nothing and closes no connection. -/
structure Fails (world : World) (status : ExitStatus) : Prop where
  status : status = .failure
  kept : .connectionData ∈ world.held
  socket : ∀ sockfd, world.connected = some sockfd → .socket sockfd ∈ world.held

/-- How a run exits, for what is left behind a successful one. -/
inductive Exits (leaves : List Resource → Prop) (cd : Option Allocated) (world : World) :
    ExitStatus → Prop where
  | success (left : leaves world.held) (disconnected : world.disconnected = true) :
      Exits leaves cd world .success
  | failure (fails : Fails world .failure) : Exits leaves cd world .failure
  | arguments (missing : cd = none) (nothing : world.held = []) : Exits leaves cd world .failure

/-!
## Calls
-/

section Rules

variable {Result : Type} {ended : World → ExitStatus → Prop} {world : World}

theorem meets_request {request : Call} {next : Answer request → Process Result}
    {post : World → Result → Prop} (allowed : may world request)
    (later : ∀ answer, Meets interface ended post (after world request answer) (next answer)) :
    Meets interface ended post world (.call request next) :=
  meets_call.mpr ⟨allowed, fun answer _ => later answer⟩

theorem meets_ask {request : Call} {next : Answer request → Process Result}
    {post : World → Result → Prop} (allowed : may world request)
    (later : ∀ answer, Meets interface ended post (after world request answer) (next answer)) :
    Meets interface ended post world (Program.invoke request >>= next) :=
  meets_request allowed later

theorem meets_print {stream : Stream} {text : CString} {next : Unit → Process Result}
    {post : World → Result → Prop}
    (later : Meets interface ended post (after world (.fprintf stream text) ()) (next ())) :
    Meets interface ended post world (fprintf stream text >>= next) :=
  meets_ask trivial fun _ => later

theorem meets_failSsh {post : World → Result → Prop} {session : Address} {caller : CString}
    (present : .session session ∈ world.held) (fails : Fails world .failure) :
    Meets interface Fails post world (failSsh session caller) := by
  rw [failSsh, print_ssh_error, meets_bind]
  refine meets_ask present fun errmsg => ?_
  exact ⟨trivial, fun _ _ => ⟨fails.status, fails.kept, fails.socket⟩⟩

theorem meets_failSftp {post : World → Result → Prop} {session sftp : Address} {caller : CString}
    (present : .session session ∈ world.held)
    (initialised : .sftp sftp ∈ world.held ∧ world.disconnected = false)
    (fails : Fails world .failure) :
    Meets interface Fails post world (failSftp session sftp caller) := by
  rw [failSftp, print_sftp_error, meets_bind]
  refine meets_ask present fun errno => ?_
  split
  · refine meets_ask initialised fun error => ?_
    exact ⟨trivial, fun _ _ => ⟨fails.status, fails.kept, fails.socket⟩⟩
  · exact fails

end Rules

/-!
## The reason of a failure
-/

/-- The answers for which a program gives up: calls that fail, a list without the method of its
user, and a user who does not say yes. -/
def Failing (accept : CString) (method : String) : Exchange Call Answer → Prop
  | ⟨.socket, answer⟩ => answer = none
  | ⟨.connect _ _ _, answer⟩ => answer = false
  | ⟨.session_init, answer⟩ | ⟨.channel_open_session _, answer⟩ | ⟨.sftp_init _, answer⟩
  | ⟨.sftp_opendir _ _, answer⟩ => answer = none
  | ⟨.sftp_open _ _, answer⟩ => SftpGet.truncated (Option.getD answer 0) = 0
  | ⟨.session_startup _ _, answer⟩ | ⟨.session_disconnect _, answer⟩ | ⟨.session_free _, answer⟩
  | ⟨.channel_exec _ _, answer⟩ | ⟨.channel_close _, answer⟩ | ⟨.channel_free _, answer⟩
  | ⟨.sftp_closedir _, answer⟩ | ⟨.sftp_shutdown _, answer⟩ => answer < 0
  | ⟨.hostkey_hash _, answer⟩ => answer = none
  | ⟨.fgets, answer⟩ => saysYes (Fgets.left accept answer) = false
  | ⟨.userauth_list _ _, answer⟩ => ∀ auth_list ∈ answer, supports method auth_list = false
  | ⟨.get_password, answer⟩ => answer = none
  | ⟨.channel_read _ _, answer⟩ => answer = .failed
  | ⟨.sftp_readdir _, answer⟩ => answer.bytes < 0
  | _ => False

section Reasons

variable {accept : CString} {method : String}

theorem justified_establish_tcp_connection (cd : ConnectionData) :
    Justified (Failing accept method) (· ≠ none) (establish_tcp_connection cd) := by
  intro answer
  cases answer with
  | none => exact .inl rfl
  | some sockfd =>
      refine .inr fun connected => ?_
      cases connected with
      | false => exact .inl rfl
      | true => exact .inr (Option.some_ne_none sockfd)

theorem justified_authenticate_server (session : Address) :
    Justified (Failing accept method) (fun err => ¬ err < 0)
      (authenticate_server accept session) := by
  intro answer
  cases answer with
  | none => exact .inl rfl
  | some hash =>
      refine .inr fun _ => .inr fun _ => .inr fun read => ?_
      cases yes : saysYes (Fgets.left accept read) with
      | false => exact .inl yes
      | true =>
          refine .inr ?_
          change ¬ (if saysYes (Fgets.left accept read) = true then (0 : Int32) else -1) < 0
          rw [if_pos yes]
          decide

theorem justified_withMethods {session : Address} {cd : ConnectionData}
    {next : CString → Process Int32} {post : Int32 → Prop}
    (later : ∀ auth_list, supports method auth_list = true →
      Justified (Failing accept method) post (next auth_list)) :
    Justified (Failing accept method) post (withMethods session cd next) := by
  intro answer
  cases answer with
  | none => exact .inl nofun
  | some auth_list =>
      cases supported : supports method auth_list with
      | false =>
          refine .inl ?_
          intro list same
          cases same
          exact supported
      | true => exact .inr (later auth_list supported)

theorem justified_begin {allocated : Allocated}
    {authenticate_user : Address → ConnectionData → Process Int32}
    (authenticates : ∀ session cd,
      Justified (Failing accept method) (fun err => ¬ err < 0) (authenticate_user session cd)) :
    Justified (Failing accept method) (fun _ => True)
      (begin accept authenticate_user (some allocated)) := by
  refine (justified_establish_tcp_connection allocated.cd).bind fun result reached => ?_
  cases result with
  | none => exact absurd rfl reached
  | some sockfd =>
      intro answer
      cases answer with
      | none => exact .inl rfl
      | some session =>
          refine .inr fun err => ?_
          by_cases negative : err < 0
          · exact .inl negative
          · refine .inr ?_
            show Justified _ _ (if err < 0 then _ else _)
            rw [if_neg negative]
            refine (justified_authenticate_server session).bind fun err accepted => ?_
            rw [if_neg accepted]
            refine (authenticates session allocated.cd).bind fun err accepted => ?_
            rw [if_neg accepted]
            trivial

/-- A call that is given up when it returns a negative value. -/
theorem justified_check {Result : Type} {request : Call} {post : Result → Prop}
    {next : Answer request → Process Result}
    (checked : ∀ answer, Failing accept method ⟨request, answer⟩ ∨
      Justified (Failing accept method) post (next answer)) :
    Justified (Failing accept method) post (Program.invoke request >>= next) := checked

theorem justified_finish {Result : Type} {post : Result → Prop} (sockfd : Nat)
    (session : Address) : Justified (Failing accept method) post (finish sockfd session) := by
  refine justified_check fun err => ?_
  by_cases negative : err < 0
  · exact .inl negative
  · refine .inr ?_
    rw [if_neg negative]
    refine justified_check fun err => ?_
    by_cases negative : err < 0
    · exact .inl negative
    · refine .inr ?_
      rw [if_neg negative]
      exact fun _ => .inr fun _ => .inr rfl

end Reasons

/-!
## The beginning
-/

/-- The session behind the yes of the user, with what is held besides. -/
structure Begun (sockfd : Nat) (session : Address) (rest : List Resource) (world : World) :
    Prop where
  held : world.held = .connectionData :: .socket sockfd :: .session session :: rest
  connected : world.connected = some sockfd
  started : world.started = true
  disconnected : world.disconnected = false
  trusted : world.Trusted

section Begun

variable {sockfd : Nat} {session : Address} {rest : List Resource} {world : World}
  (begun : Begun sockfd session rest world)

include begun

theorem Begun.member {resource : Resource} (inside : resource ∈ rest) :
    resource ∈ world.held := by
  rw [begun.held]
  exact .tail _ (.tail _ (.tail _ inside))

theorem Begun.session_mem : .session session ∈ world.held := by
  rw [begun.held]
  exact .tail _ (.tail _ (.head _))

theorem Begun.open : world.Open session :=
  ⟨begun.session_mem, begun.started, begun.disconnected⟩

theorem Begun.fails : Fails world .failure := by
  refine ⟨rfl, ?_, fun other same => ?_⟩
  · rw [begun.held]
    exact .head _
  · rw [begun.connected, Option.some.injEq] at same
    rw [begun.held, same]
    exact .tail _ (.head _)

theorem Begun.print (stream : Stream) (text : CString) :
    Begun sockfd session rest (after world (.fprintf stream text) ()) := by
  obtain ⟨held, connected, started, disconnected, shown, asked, yes⟩ := begun
  exact ⟨held, connected, started, disconnected, by simp [after, shown], asked, yes⟩

theorem Begun.acquire (resource : Resource) :
    Begun sockfd session (rest ++ [resource]) (world.acquire resource) := by
  obtain ⟨held, connected, started, disconnected, trusted⟩ := begun
  exact ⟨by simp [World.acquire, held], connected, started, disconnected, trusted⟩

theorem Begun.release {resource : Resource}
    (apart : resource ∉ [.connectionData, .socket sockfd, .session session]) :
    Begun sockfd session (rest.erase resource)
      { world with held := world.held.erase resource } := by
  obtain ⟨held, connected, started, disconnected, trusted⟩ := begun
  simp only [List.mem_cons, List.not_mem_nil, or_false, not_or] at apart
  refine ⟨?_, connected, started, disconnected, trusted⟩
  rw [held, List.erase_cons_tail, List.erase_cons_tail, List.erase_cons_tail] <;> simp <;> tauto

theorem Begun.fail {Result : Type} {post : World → Result → Prop} {caller : CString} :
    Meets interface Fails post world (failSsh session caller) :=
  meets_failSsh begun.session_mem begun.fails

end Begun

/-- What `authenticate_user` has to keep to. -/
def Authenticates (authenticate_user : Address → ConnectionData → Process Int32) : Prop :=
  ∀ sockfd session cd world, Begun sockfd session [] world →
    Meets interface Fails
      (fun world err => Begun sockfd session [] world ∧ (err < 0 ∨ world.authenticated = true))
      world (authenticate_user session cd)

/-- A session that is started, in front of a server that nobody trusts yet. -/
structure Started (sockfd : Nat) (session : Address) (accept : CString) (world : World) : Prop where
  held : world.held = [.connectionData, .socket sockfd, .session session]
  connected : world.connected = some sockfd
  started : world.started = true
  disconnected : world.disconnected = false
  accept : world.accept = accept

theorem Started.fails {sockfd : Nat} {session : Address} {accept : CString} {world : World}
    (started : Started sockfd session accept world) : Fails world .failure := by
  refine ⟨rfl, by simp [started.held], fun other same => ?_⟩
  rw [started.connected, Option.some.injEq] at same
  simp [started.held, same]

theorem meets_authenticate_server {sockfd : Nat} {session : Address} {accept : CString}
    {world : World} (started : Started sockfd session accept world) :
    Meets interface Fails
      (fun after err => (err < 0 ∧ Fails after .failure) ∨
        (err = 0 ∧ Begun sockfd session [] after))
      world (authenticate_server accept session) := by
  have fails := started.fails
  obtain ⟨held, connected, started, disconnected, rfl⟩ := started
  rw [authenticate_server]
  refine meets_request ⟨by simp [held], started, disconnected⟩ fun answer => ?_
  cases answer with
  | none =>
      refine meets_print ?_
      exact .inl ⟨by decide, fails.status, fails.kept, fails.socket⟩
  | some hash =>
      refine meets_print (meets_print (meets_ask ?_ fun read => ?_))
      · simp [may, after]
      · by_cases yes : saysYes (Fgets.left world.accept read)
        · refine .inr ⟨if_pos yes, held, connected, started, disconnected, ?_⟩
          exact ⟨by simp [after], rfl, yes⟩
        · refine .inl ⟨?_, fails.status, fails.kept, fails.socket⟩
          rw [if_neg yes]
          decide

theorem meets_withMethods {sockfd : Nat} {session : Address} {world : World}
    (begun : Begun sockfd session [] world) {cd : ConnectionData}
    {next : CString → Process Int32} {post : World → Int32 → Prop}
    (refused : ∀ world, Begun sockfd session [] world → post world (-1))
    (later : ∀ auth_list, Meets interface Fails post world (next auth_list)) :
    Meets interface Fails post world (withMethods session cd next) := by
  refine meets_request ⟨begun.open, begun.trusted⟩ fun answer => ?_
  cases answer with
  | some auth_list => exact later auth_list
  | none =>
      refine meets_ask ⟨begun.open, begun.trusted⟩ fun authenticated => ?_
      split
      · exact meets_print (refused _ (begun.print _ _))
      · rw [print_ssh_error, bind_assoc]
        refine meets_ask begun.session_mem fun errmsg => ?_
        exact meets_print (refused _ (begun.print _ _))

theorem meets_establish_tcp_connection {cd : ConnectionData} {world : World}
    (held : world.held = [.connectionData]) (connected : world.connected = none) :
    Meets interface Fails
      (fun after result =>
        match result with
        | none => Fails after .failure
        | some sockfd => after = { world with
            held := [.connectionData, .socket sockfd], connected := some sockfd })
      world (establish_tcp_connection cd) := by
  refine meets_request trivial fun answer => ?_
  cases answer with
  | none =>
      refine ⟨rfl, by simp [after, held], fun sockfd same => ?_⟩
      rw [after, connected] at same
      cases same
  | some sockfd =>
      refine meets_request ⟨by simp [after, World.acquire], connected⟩ fun reached => ?_
      cases reached with
      | false =>
          refine ⟨rfl, by simp [after, World.acquire, held], fun other same => ?_⟩
          simp [after, World.acquire, connected] at same
      | true => simp [after, World.acquire, held]

/-- With the structure that the parser returned. -/
theorem meets_begin_some {accept : CString} {allocated : Allocated}
    {authenticate_user : Address → ConnectionData → Process Int32}
    (authenticates : Authenticates authenticate_user) :
    Meets interface Fails
      (fun world begun => Begun begun.1 begun.2.1 [] world ∧ world.authenticated = true)
      (.start (some allocated) accept) (begin accept authenticate_user (some allocated)) := by
  refine Meets.bind (meets_establish_tcp_connection rfl rfl) fun world result reached => ?_
  cases result with
  | none => exact reached
  | some sockfd =>
      subst reached
      have fails {world : World} (held : .connectionData ∈ world.held ∧ .socket sockfd ∈ world.held)
          (connected : world.connected = some sockfd) : Fails world .failure := by
        refine ⟨rfl, held.1, fun other same => ?_⟩
        rw [connected] at same
        cases same
        exact held.2
      refine meets_request trivial fun answer => ?_
      cases answer with
      | none => exact meets_print (fails (by simp [after, World.acquire?]) rfl)
      | some session =>
          refine meets_ask ⟨by simp [after, World.acquire?, World.acquire], rfl,
            by simp [after, World.acquire?, World.acquire], rfl⟩ fun err => ?_
          split
          · next negative =>
              refine meets_failSsh ?_ (fails ?_ ?_) <;>
                simp [after, World.acquire?, World.acquire, negative]
          · next positive =>
              refine Meets.bind (@meets_authenticate_server sockfd session accept _ ?_)
                fun world err outcome => ?_
              · constructor <;> simp [after, World.acquire?, World.acquire, World.start, positive]
              · rcases outcome with ⟨refused, fails⟩ | ⟨accepted, begun⟩
                · simp only [if_pos refused]
                  exact fails
                · have positive : ¬ err < 0 := by
                    rw [accepted]
                    decide
                  simp only [if_neg positive]
                  refine Meets.bind (authenticates sockfd session allocated.cd world begun)
                    fun world err outcome => ?_
                  obtain ⟨begun, authenticated⟩ := outcome
                  split
                  · exact begun.fails
                  · next positive => exact ⟨begun, authenticated.resolve_left positive⟩

theorem Fails.exits {leaves : List Resource → Prop} {cd : Option Allocated} {world : World}
    {status : ExitStatus} (fails : Fails world status) : Exits leaves cd world status := by
  obtain rfl := fails.status
  exact .failure fails

theorem Fails.lift {Result : Type} {leaves : List Resource → Prop} {cd : Option Allocated}
    {world : World} {post : World → Result → Prop} {program : Process Result}
    (meets : Meets interface Fails post world program) :
    Meets interface (Exits leaves cd) post world program :=
  meets.mono (fun _ _ => Fails.exits) fun _ _ holds => holds

theorem meets_begin {leaves : List Resource → Prop} {accept : CString} {cd : Option Allocated}
    {authenticate_user : Address → ConnectionData → Process Int32}
    (authenticates : Authenticates authenticate_user) :
    Meets interface (Exits leaves cd)
      (fun world begun => Begun begun.1 begun.2.1 [] world ∧ world.authenticated = true)
      (.start cd accept) (begin accept authenticate_user cd) := by
  cases cd with
  | none => exact .arguments rfl rfl
  | some allocated =>
      exact Fails.lift (meets_begin_some authenticates)

/-!
## The end
-/

theorem meets_finish {Result : Type} {leaves : List Resource → Prop} {cd : Option Allocated}
    {sockfd : Nat} {session : Address} {rest : List Resource} {world : World}
    {post : World → Result → Prop} (begun : Begun sockfd session rest world) (left : leaves rest) :
    Meets interface (Exits leaves cd) post world (finish sockfd session) := by
  refine meets_ask begun.open fun err => ?_
  split
  · next negative =>
      have unchanged : after world (.session_disconnect session) err = world := if_pos negative
      rw [unchanged]
      exact Fails.lift begun.fail
  · next positive =>
      have changed : after world (.session_disconnect session) err =
          { world with disconnected := true } := if_neg positive
      rw [changed]
      refine meets_ask ⟨begun.session_mem, rfl⟩ fun err => ?_
      split
      · next negative =>
          have unchanged : after { world with disconnected := true } (.session_free session) err =
              { world with disconnected := true } := if_pos negative
          rw [unchanged]
          have fails : Fails { world with disconnected := true } .failure :=
            ⟨rfl, begun.fails.kept, begun.fails.socket⟩
          refine Fails.lift (meets_failSsh ?_ fails)
          exact begun.session_mem
      · next positive =>
          have freed : after { world with disconnected := true } (.session_free session) err =
              { world with
                disconnected := true, held := .connectionData :: .socket sockfd :: rest } := by
            simp [after, World.release, positive, begun.held]
          rw [freed]
          refine meets_ask ?_ fun _ => meets_ask ?_ fun _ => .success ?_ rfl
          · simp [may]
          · simp [may, after]
          · simpa [after] using left

/-!
## A session that succeeds
-/

/-- A library and a user that go along with everything; the file is empty. -/
def obliging (pointer : Address) : (request : Call) → Answer request
  | .socket => some 3
  | .connect _ _ _ => true
  | .session_init | .channel_open_session _ | .sftp_init _ | .sftp_opendir _ _ | .malloc _ => some 1
  | .sftp_open _ _ => some pointer
  | .session_startup _ _ | .session_last_errno _ | .session_disconnect _ | .session_free _
  | .userauth_publickey_fromfile _ _ _ _ _ | .userauth_password _ _ _ | .channel_exec _ _
  | .channel_get_exit_status _ | .channel_close _ | .channel_free _ | .sftp_closedir _
  | .sftp_shutdown _ | .closeFile _ => 0
  | .open _ => 4
  | .session_last_error _ => []
  | .hostkey_hash _ => some (.replicate 16 7)
  | .fgets => .line (ascii "yes")
  | .fprintf _ _ | .write _ _ | .close _ | .free_connection_data => ()
  | .userauth_list _ _ => some (ascii "publickey")
  | .get_password | .scanf_word => some (ascii "a")
  | .userauth_authenticated _ => false
  | .scanf_char => some 110
  | .channel_read _ _ => .finished
  | .sftp_read _ _ => some .finished
  | .sftp_last_error _ => 0
  | .sftp_readdir _ => ⟨0, none, none⟩

theorem obliging_honest (pointer : Address) (world : World) (request : Call) :
    promise world request (obliging pointer request) := by
  cases request with
  | sftp_read handle count =>
      intro missing
      cases missing
  | _ => trivial

def user : Allocated :=
  ⟨1, { username := .stored ⟨2, ascii "u"⟩, address := .stored 0, port := 22 }⟩

end NetworkServices.Ssh.Session
