import NetworkServices.Palindrome.ClientProperties
import NetworkServices.Palindrome.InputCheck
import NetworkServices.Palindrome.Service
import Mathlib.Logic.Relation

/-! What the clients of the palindrome server show. A reply is the server's answer to a message of
that client, though to an earlier one where the network repeats datagrams, since no reply says
which message it is for. -/

set_option autoImplicit false

namespace NetworkServices.Palindrome

variable {ι : Type}

def World.Asked (world : World ι) (text : CString) : Prop :=
  ∃ d, text ∈ (world.client d).asked

/-- An answer of the server to a text, behind other texts that clients have sent. -/
def World.Answers (world : World ι) (text : CString) (letter : UInt8) : Prop :=
  ∃ earlier, (∀ other ∈ earlier, world.Asked other) ∧ ∃ round complained,
    round.received = .data text ∧ (serve (stored earlier) round).1 = .replied complained letter

/-- The `k`th text that a client shows: the letter for the `k`th message, and what `buff` has held
behind its first byte from the start. -/
def Shows (repeats : Prop) (buff : Buffer 256) (world : World ι) (c : ι) (k : Nat)
    (shown : CString) : Prop :=
  ∃ number ≤ k, (¬ repeats → number = k) ∧ ∃ text letter beyond,
    (world.client c).asked[number]? = some text ∧ world.Answers text letter ∧
      shown = letter :: cString (buff.bytes.drop 1 ++ beyond)

structure Converses (repeats : Prop) (input : Istream) (buff : Buffer 256) (world : World ι)
    (c : ι) : Prop where
  asked : ∃ rest, (world.client c).asked ++ rest = datagrams input ∧
    ((world.client c).control = .writing ∨ (world.client c).control = .waiting →
      rest = datagrams (world.client c).stream) ∧
    ((world.client c).control = .closed → rest = [])
  writing : (world.client c).control = .writing →
    (world.client c).asked.length = (world.client c).shown.length
  waiting : (world.client c).control = .waiting ∨ (world.client c).control = .closed →
    (world.client c).asked.length = (world.client c).shown.length + 1
  each : (world.client c).shown.length ≤ (world.client c).asked.length ∧
    (world.client c).asked.length ≤ (world.client c).shown.length + 1
  shown : ∀ k text, (world.client c).shown[k]? = some text → Shows repeats buff world c k text

/-- A client that waits has its message or the reply under way, unless one was lost or the server
has ended. -/
def World.Pending (world : World ι) (c : ι) : Prop :=
  (world.client c).control = .waiting → world.lost c = true ∨ world.server = none ∨
    ∃ packet ∈ world.transit, packet.client = c ∧
      packet.number = (world.client c).shown.length

section Grows

variable {world later : World ι} {c : ι} {text : CString} {letter : UInt8}

def World.Grows (world later : World ι) : Prop :=
  ∀ c, (world.client c).asked <+: (later.client c).asked

theorem World.Grows.getElem? (grows : world.Grows later) {number : Nat}
    (asked : (world.client c).asked[number]? = some text) :
    (later.client c).asked[number]? = some text := by
  obtain ⟨rest, same⟩ := grows c
  obtain ⟨inside, _⟩ := List.getElem?_eq_some_iff.mp asked
  rw [← same, List.getElem?_append_left inside, asked]

theorem World.Asked.mono (grows : world.Grows later) (asked : world.Asked text) :
    later.Asked text := by
  obtain ⟨d, member⟩ := asked
  exact ⟨d, (grows d).subset member⟩

theorem World.Answers.mono (grows : world.Grows later) (answers : world.Answers text letter) :
    later.Answers text letter := by
  obtain ⟨earlier, asked, served⟩ := answers
  exact ⟨earlier, fun other member => (asked other member).mono grows, served⟩

theorem World.Answers.ne_zero (answers : world.Answers text letter) : letter ≠ 0 := by
  obtain ⟨earlier, _, round, complained, received, served⟩ := answers
  simp only [serve, received] at served
  split at served
  · cases served
  · cases served
    unfold answer
    split
    · decide
    · split
      · decide
      · decide

def Packet.Sound (world : World ι) : Packet ι → Prop
  | .request c number text => (world.client c).asked[number]? = some text
  | .reply c number letter => ∃ text, (world.client c).asked[number]? = some text ∧
      world.Answers text letter

theorem Packet.Sound.mono (grows : world.Grows later) {packet : Packet ι}
    (sound : packet.Sound world) : packet.Sound later := by
  cases packet with
  | request c number text => exact grows.getElem? sound
  | reply c number letter =>
      obtain ⟨text, asked, answers⟩ := sound
      exact ⟨text, grows.getElem? asked, answers.mono grows⟩

theorem Shows.mono (grows : world.Grows later) {repeats : Prop} {buff : Buffer 256} {k : Nat}
    {shown : CString} (shows : Shows repeats buff world c k shown) :
    Shows repeats buff later c k shown := by
  obtain ⟨number, early, same, text, letter, beyond, asked, answers, printed⟩ := shows
  exact ⟨number, early, same, text, letter, beyond, grows.getElem? asked, answers.mono grows,
    printed⟩

theorem Converses.mono (grows : world.Grows later) (same : later.client c = world.client c)
    {repeats : Prop} {input : Istream} {buff : Buffer 256}
    (converses : Converses repeats input buff world c) :
    Converses repeats input buff later c := by
  obtain ⟨asked, writing, waiting, each, shown⟩ := converses
  rw [← same] at asked writing waiting each shown
  exact ⟨asked, writing, waiting, each, fun k text found => (shown k text found).mono grows⟩

end Grows

variable [DecidableEq ι]

/-- How many datagrams of a client are under way. -/
def count (c : ι) (transit : List (Packet ι)) : Nat :=
  transit.countP fun packet => packet.client = c

theorem count_cons_self (packet : Packet ι) (rest : List (Packet ι)) :
    count packet.client (packet :: rest) = count packet.client rest + 1 :=
  List.countP_cons_of_pos (decide_eq_true rfl)

theorem count_cons_of_ne {c : ι} {packet : Packet ι} (other : packet.client ≠ c)
    (rest : List (Packet ι)) : count c (packet :: rest) = count c rest :=
  List.countP_cons_of_neg (by simpa using other)

theorem ne_of_count_eq_zero {c : ι} {transit : List (Packet ι)} (none : count c transit = 0)
    {packet : Packet ι} (member : packet ∈ transit) : packet.client ≠ c := by
  intro same
  exact List.countP_eq_zero.mp none packet member (decide_eq_true same)

theorem count_perm {packet : Packet ι} {transit rest : List (Packet ι)}
    (arrives : transit.Perm (packet :: rest)) (c : ι) :
    count c transit = count c (packet :: rest) :=
  arrives.countP_eq _

theorem count_rest_le {packet : Packet ι} {transit rest : List (Packet ι)}
    (arrives : transit.Perm (packet :: rest)) (c : ι) : count c rest ≤ count c transit := by
  rw [count_perm arrives]
  exact (List.sublist_cons_self _ rest).countP_le

omit [DecidableEq ι] in
theorem mem_of_arrives {packet other : Packet ι} {transit rest : List (Packet ι)}
    (arrives : transit.Perm (packet :: rest)) (member : other ∈ rest) : other ∈ transit :=
  arrives.mem_iff.mpr (List.mem_cons_of_mem _ member)

/-- Without repetitions a client has one datagram under way at most, for its current message. -/
structure World.Orderly (world : World ι) : Prop where
  single : ∀ c, count c world.transit ≤ 1
  idle : ∀ c, (world.client c).control = .writing → count c world.transit = 0
  current : ∀ packet ∈ world.transit,
    packet.number = (world.client packet.client).shown.length

structure Invariant (repeats : Prop) (inputs : ι → Istream) (buffs : ι → Buffer 256)
    (world : World ι) : Prop where
  server : ∀ buffer, world.server = some buffer → buffer = stored world.received
  received : ∀ text ∈ world.received, world.Asked text
  packets : ∀ packet ∈ world.transit, packet.Sound world
  conversations : ∀ c, Converses repeats (inputs c) (buffs c) world c
  buffs : ∀ c, (world.client c).buff.bytes.drop 1 = (buffs c).bytes.drop 1
  pending : ∀ c, world.Pending c
  orderly : ¬ repeats → world.Orderly

section Steps

variable {repeats : Prop} {inputs : ι → Istream} {buffs : ι → Buffer 256} {world : World ι} {c : ι}

theorem invariant_start : Invariant repeats inputs buffs (World.start inputs buffs) where
  server _ same := (Option.some.inj same).symm
  received _ member := absurd member List.not_mem_nil
  packets _ member := absurd member List.not_mem_nil
  conversations c :=
    { asked := ⟨datagrams (inputs c), rfl, fun _ => rfl, fun closed => by cases closed⟩
      writing := fun _ => rfl
      waiting := by
        intro other
        rcases other with same | same
        · cases same
        · cases same
      each := ⟨Nat.le_refl 0, Nat.zero_le 1⟩
      shown := fun _ _ found => by cases found }
  buffs _ := rfl
  pending _ waiting := by cases waiting
  orderly _ := ⟨fun _ => Nat.zero_le 1, fun _ _ => rfl, fun _ member => absurd member List.not_mem_nil⟩

/-- A step of the server or of the network. -/
theorem Invariant.network (invariant : Invariant repeats inputs buffs world)
    {server : Option (Buffer 256)} {received : List CString} {transit : List (Packet ι)}
    {lost : ι → Bool} (buffer : ∀ buffer, server = some buffer → buffer = stored received)
    (asked : ∀ text ∈ received, world.Asked text) (packets : ∀ packet ∈ transit, packet.Sound world)
    (pending : ∀ c, World.Pending { world with server, received, transit, lost } c)
    (orderly : ¬ repeats → World.Orderly { world with server, received, transit, lost }) :
    Invariant repeats inputs buffs { world with server, received, transit, lost } where
  server := buffer
  received := asked
  packets packet member := (packets packet member).mono fun _ => List.prefix_rfl
  conversations c := by
    obtain ⟨asked, writing, waiting, each, shown⟩ := invariant.conversations c
    exact ⟨asked, writing, waiting, each, shown⟩
  buffs := invariant.buffs
  pending := pending
  orderly := orderly

theorem World.Orderly.of_count (orderly : world.Orderly) {server : Option (Buffer 256)}
    {received : List CString} {transit : List (Packet ι)} {lost : ι → Bool}
    (fewer : ∀ c, count c transit ≤ count c world.transit)
    (current : ∀ packet ∈ transit, packet.number = (world.client packet.client).shown.length) :
    World.Orderly { world with server, received, transit, lost } where
  single c := (fewer c).trans (orderly.single c)
  idle c writing := Nat.le_zero.mp ((fewer c).trans (orderly.idle c writing).le)
  current := current

theorem grows_update {client : Client} (transit : List (Packet ι))
    (grows : (world.client c).asked <+: client.asked) :
    world.Grows { world with client := Function.update world.client c client, transit } := by
  intro d
  by_cases same : d = c
  · subst same
    simpa only [Function.update_self] using grows
  · simp only [Function.update_of_ne same, List.prefix_rfl]

/-- A step of one client. -/
theorem Invariant.onClient (invariant : Invariant repeats inputs buffs world) {client : Client}
    {transit : List (Packet ι)} (grows : (world.client c).asked <+: client.asked)
    (buff : client.buff.bytes.drop 1 = (buffs c).bytes.drop 1)
    (packets : ∀ packet ∈ transit, packet ∈ world.transit ∨ packet.Sound
      { world with client := Function.update world.client c client, transit })
    (converses : Converses repeats (inputs c) (buffs c)
      { world with client := Function.update world.client c client, transit } c)
    (pending : ∀ d, World.Pending
      { world with client := Function.update world.client c client, transit } d)
    (orderly : ¬ repeats → World.Orderly
      { world with client := Function.update world.client c client, transit }) :
    Invariant repeats inputs buffs
      { world with client := Function.update world.client c client, transit } := by
  have longer := grows_update transit grows
  refine ⟨invariant.server, fun text member => (invariant.received text member).mono longer,
    fun packet member => ?_, fun d => ?_, fun d => ?_, pending, orderly⟩
  · rcases packets packet member with earlier | sound
    · exact (invariant.packets packet earlier).mono longer
    · exact sound
  · by_cases same : d = c
    · subst same
      exact converses
    · exact (invariant.conversations d).mono longer (Function.update_of_ne same client world.client)
  · by_cases same : d = c
    · subst same
      simpa only [Function.update_self] using buff
    · simpa only [Function.update_of_ne same] using invariant.buffs d

theorem Invariant.ask (invariant : Invariant repeats inputs buffs world)
    (writing : (world.client c).control = .writing) :
    Invariant repeats inputs buffs { world with
      client := Function.update world.client c (world.client c).ask
      transit := .request c (world.client c).asked.length (message (world.client c).stream) ::
        world.transit } := by
  have converses := invariant.conversations c
  have length := converses.writing writing
  have more : (world.client c).ask.asked =
      (world.client c).asked ++ [message (world.client c).stream] := rfl
  have waits : (world.client c).ask.control ≠ .writing := by
    by_cases empty : message (world.client c).stream = []
    · rw [Client.ask, if_pos empty]
      exact fun same => by cases same
    · rw [Client.ask, if_neg empty]
      exact fun same => by cases same
  refine invariant.onClient (List.prefix_append _ _) (invariant.buffs c) ?_ ?_ ?_ ?_
  · intro packet member
    rcases List.mem_cons.mp member with rfl | earlier
    · refine .inr ?_
      simp only [Packet.Sound, Function.update_self, more]
      exact List.getElem?_concat_length
    · exact .inl earlier
  · refine ⟨?_, ?_, ?_, ?_, ?_⟩
    · obtain ⟨rest, whole, open_, _⟩ := converses.asked
      have left := open_ (.inl writing)
      simp only [Function.update_self, more, List.append_assoc, List.singleton_append]
      by_cases empty : message (world.client c).stream = []
      · rw [datagrams_of_empty empty] at left
        refine ⟨[], by rw [empty, ← left, whole], ?_, fun _ => rfl⟩
        rw [Client.ask, if_pos empty]
        intro other
        rcases other with same | same
        · cases same
        · cases same
      · rw [datagrams_of_nonempty empty] at left
        refine ⟨datagrams ((world.client c).stream.getline 256).2, by rw [← left, whole],
          fun _ => rfl, ?_⟩
        rw [Client.ask, if_neg empty]
        intro same
        cases same
    · simp only [Function.update_self]
      exact fun same => absurd same waits
    · intro _
      simp only [Function.update_self, more, List.length_append, List.length_singleton, length]
      rfl
    · simp only [Function.update_self, more, List.length_append, List.length_singleton, length]
      exact ⟨Nat.le_succ _, Nat.le_refl _⟩
    · intro k text found
      simp only [Function.update_self] at found
      have shows := converses.shown k text found
      exact shows.mono (grows_update _ (List.prefix_append _ _))
  · intro d
    by_cases same : d = c
    · subst same
      intro _
      refine .inr (.inr ⟨_, List.mem_cons_self, rfl, ?_⟩)
      simp only [Function.update_self]
      exact length
    · intro waiting
      simp only [Function.update_of_ne same] at waiting ⊢
      rcases invariant.pending d waiting with lost | ended | ⟨packet, member, its⟩
      · exact .inl lost
      · exact .inr (.inl ended)
      · exact .inr (.inr ⟨packet, List.mem_cons_of_mem _ member, its⟩)
  · intro once
    have orderly := invariant.orderly once
    have none := orderly.idle c writing
    refine ⟨fun d => ?_, fun d idle => ?_, fun packet member => ?_⟩
    · show count d (_ :: world.transit) ≤ 1
      by_cases same : d = c
      · subst same
        have more := count_cons_self (.request d (world.client d).asked.length
          (message (world.client d).stream)) world.transit
        rw [Packet.client, none] at more
        exact more.le
      · rw [count_cons_of_ne fun other => same other.symm]
        exact orderly.single d
    · show count d (_ :: world.transit) = 0
      by_cases same : d = c
      · subst same
        simp only [Function.update_self] at idle
        exact absurd idle waits
      · simp only [Function.update_of_ne same] at idle
        rw [count_cons_of_ne fun other => same other.symm]
        exact orderly.idle d idle
    · rcases List.mem_cons.mp member with rfl | earlier
      · simp only [Packet.client, Packet.number, Function.update_self]
        exact length
      · have other := ne_of_count_eq_zero none earlier
        simp only [Function.update_of_ne other]
        exact orderly.current packet earlier

theorem Invariant.receive (invariant : Invariant repeats inputs buffs world) {number : Nat}
    {letter : UInt8} {rest : List (Packet ι)} (beyond : List UInt8)
    (waiting : (world.client c).control = .waiting)
    (arrives : world.transit.Perm (.reply c number letter :: rest)) :
    Invariant repeats inputs buffs { world with
      client := Function.update world.client c ((world.client c).receive letter beyond)
      transit := rest } := by
  have converses := invariant.conversations c
  have length := converses.waiting (.inl waiting)
  have grows : world.Grows { world with
      client := Function.update world.client c ((world.client c).receive letter beyond)
      transit := rest } := grows_update _ List.prefix_rfl
  have buff : ((world.client c).receive letter beyond).buff.bytes.drop 1 =
      (buffs c).bytes.drop 1 := by
    rw [← invariant.buffs c, Client.receive]
    dsimp only
    rw [Buffer.receive_bytes _ (Nat.le_add_left 1 255 : [letter].length ≤ 256)]
    rfl
  refine invariant.onClient List.prefix_rfl buff
    (fun packet member => .inl (mem_of_arrives arrives member)) ?_ ?_ ?_
  · refine ⟨?_, ?_, ?_, ?_, ?_⟩
    · obtain ⟨left, whole, running, _⟩ := converses.asked
      simp only [Function.update_self]
      exact ⟨left, whole, fun _ => running (.inr waiting), fun same => by cases same⟩
    · intro _
      simp only [Function.update_self, Client.receive, List.length_append, List.length_singleton]
      exact length
    · intro other
      simp only [Function.update_self] at other
      rcases other with same | same
      · cases same
      · cases same
    · simp only [Function.update_self, Client.receive, List.length_append, List.length_singleton]
      exact ⟨length.ge, length.le.trans (Nat.le_succ _)⟩
    · intro k text found
      simp only [Function.update_self, Client.receive] at found
      rcases Nat.lt_or_ge k (world.client c).shown.length with earlier | last
      · rw [List.getElem?_append_left earlier] at found
        exact (converses.shown k text found).mono grows
      · obtain ⟨none, new⟩ := List.getElem?_eq_some_iff.mp found
        rw [List.length_append, List.length_singleton] at none
        obtain rfl : k = (world.client c).shown.length := by omega
        rw [List.getElem?_concat_length, Option.some.injEq] at found
        obtain ⟨asked, at_, answers⟩ := invariant.packets _ (arrives.mem_iff.mpr List.mem_cons_self)
        obtain ⟨inside, _⟩ := List.getElem?_eq_some_iff.mp at_
        refine ⟨number, by omega, fun once => ?_, asked, letter, beyond, grows.getElem? at_,
          answers.mono grows, ?_⟩
        · exact (invariant.orderly once).current _ (arrives.mem_iff.mpr List.mem_cons_self)
        · rw [← found, ← invariant.buffs c]
          exact Buffer.text_receive _ (Nat.le_add_left 1 255)
            (fun zero => answers.ne_zero (List.mem_singleton.mp zero).symm) beyond
  · intro d
    by_cases same : d = c
    · subst same
      intro other
      simp only [Function.update_self] at other
      cases other
    · intro waits
      simp only [Function.update_of_ne same] at waits ⊢
      rcases invariant.pending d waits with lost | ended | ⟨packet, member, its, current⟩
      · exact .inl lost
      · exact .inr (.inl ended)
      · rcases List.mem_cons.mp (arrives.mem_iff.mp member) with rfl | left
        · exact absurd its.symm same
        · exact .inr (.inr ⟨packet, left, its, current⟩)
  · intro once
    have orderly := invariant.orderly once
    have fewer := count_rest_le arrives
    have none : count c rest = 0 := by
      have more := count_cons_self (.reply c number letter) rest
      have single := orderly.single c
      rw [count_perm arrives] at single
      rw [Packet.client] at more
      omega
    refine ⟨fun d => (fewer d).trans (orderly.single d), fun d idle => ?_, fun packet member => ?_⟩
    · by_cases same : d = c
      · subst same
        exact none
      · simp only [Function.update_of_ne same] at idle
        exact Nat.le_zero.mp ((fewer d).trans (orderly.idle d idle).le)
    · have other := ne_of_count_eq_zero none member
      simp only [Function.update_of_ne other]
      exact orderly.current packet (mem_of_arrives arrives member)

theorem Invariant.fail (invariant : Invariant repeats inputs buffs world) :
    Invariant repeats inputs buffs { world with
      client := Function.update world.client c { world.client c with control := .failed } } := by
  have converses := invariant.conversations c
  refine invariant.onClient List.prefix_rfl (invariant.buffs c) (fun _ => .inl) ?_ ?_ ?_
  · obtain ⟨left, whole, _⟩ := converses.asked
    refine ⟨⟨left, ?_⟩, ?_, ?_, ?_, ?_⟩
    · simp only [Function.update_self]
      refine ⟨whole, fun other => ?_, fun same => by cases same⟩
      rcases other with same | same
      · cases same
      · cases same
    · intro other
      simp only [Function.update_self] at other
      cases other
    · intro other
      simp only [Function.update_self] at other
      rcases other with same | same
      · cases same
      · cases same
    · simp only [Function.update_self]
      exact converses.each
    · intro k text found
      simp only [Function.update_self] at found
      refine (converses.shown k text found).mono ?_
      exact grows_update _ List.prefix_rfl
  · intro d waits
    by_cases same : d = c
    · subst same
      simp only [Function.update_self] at waits
      cases waits
    · simp only [Function.update_of_ne same] at waits ⊢
      exact invariant.pending d waits
  · intro once
    have orderly := invariant.orderly once
    refine ⟨orderly.single, fun d idle => ?_, fun packet member => ?_⟩
    · by_cases same : d = c
      · subst same
        simp only [Function.update_self] at idle
        cases idle
      · simp only [Function.update_of_ne same] at idle
        exact orderly.idle d idle
    · rw [orderly.current packet member]
      by_cases same : packet.client = c
      · simp only [same, Function.update_self]
      · simp only [Function.update_of_ne same]

omit [DecidableEq ι] in
theorem pending_of_kept {packet : Packet ι} {rest transit : List (Packet ι)}
    {server : Option (Buffer 256)} {received : List CString} {lost : ι → Bool}
    (pending : world.Pending c) (arrives : world.transit.Perm (packet :: rest))
    (kept : ∀ other ∈ rest, other ∈ transit) (running : world.server = none → server = none)
    (still : world.lost c = true → lost c = true)
    (instead : packet.client = c → server = none ∨ lost c = true ∨
      ∃ other ∈ transit, other.client = c ∧ other.number = packet.number) :
    World.Pending { world with server, received, transit, lost } c := by
  intro waiting
  rcases pending waiting with gone | ended | ⟨other, member, its, current⟩
  · exact .inl (still gone)
  · exact .inr (.inl (running ended))
  · rcases List.mem_cons.mp (arrives.mem_iff.mp member) with rfl | left
    · rcases instead its with ended | gone | ⟨next, found, same, number⟩
      · exact .inr (.inl ended)
      · exact .inl gone
      · exact .inr (.inr ⟨next, found, same, number.trans current⟩)
    · exact .inr (.inr ⟨other, kept other left, its, current⟩)

theorem served_eq {buffer after : Buffer 256} {round : Round} {text : CString} {complained : Bool}
    {letter : UInt8} (received : round.received = delivered text)
    (served : serve buffer round = (.replied complained letter, after)) :
    round.received = .data text ∧ after = buffer.receive text := by
  by_cases empty : text = []
  · rw [delivered, if_pos empty] at received
    rw [serve, received] at served
    cases served
  · rw [delivered, if_neg empty] at received
    have stored := serve_buffer received buffer
    rw [served] at stored
    exact ⟨received, stored⟩

theorem Invariant.serve (invariant : Invariant repeats inputs buffs world) {number : Nat}
    {text : CString} {rest : List (Packet ι)} {buffer after : Buffer 256} {complained : Bool}
    {letter : UInt8} {round : Round} (running : world.server = some buffer)
    (arrives : world.transit.Perm (.request c number text :: rest))
    (received : round.received = delivered text)
    (served : Palindrome.serve buffer round = (.replied complained letter, after)) :
    Invariant repeats inputs buffs { world with
      server := some after
      received := world.received ++ [text]
      transit := .reply c number letter :: rest } := by
  obtain ⟨data, rfl⟩ := served_eq received served
  obtain rfl := invariant.server buffer running
  have asked := invariant.packets _ (arrives.mem_iff.mpr List.mem_cons_self)
  refine invariant.network ?_ ?_ ?_ (fun d => ?_) fun once => ?_
  · rintro _ ⟨⟩
    rw [stored, stored, List.foldl_append]
    rfl
  · intro other member
    rcases List.mem_append.mp member with earlier | last
    · exact invariant.received other earlier
    · obtain rfl := List.mem_singleton.mp last
      exact ⟨c, List.mem_of_getElem? asked⟩
  · intro packet member
    rcases List.mem_cons.mp member with rfl | left
    · exact ⟨text, asked, world.received, invariant.received, round, complained, data,
        congrArg Prod.fst served⟩
    · exact invariant.packets packet (mem_of_arrives arrives left)
  · refine pending_of_kept (invariant.pending d) arrives (fun _ => List.mem_cons_of_mem _)
      (fun ended => ?_) id fun its => ?_
    · rw [running] at ended
      cases ended
    · exact .inr (.inr ⟨_, List.mem_cons_self, its, rfl⟩)
  · have orderly := invariant.orderly once
    refine orderly.of_count (fun d => ?_) fun packet member => ?_
    · rw [count_perm arrives]
      exact Nat.le_refl _
    · rcases List.mem_cons.mp member with rfl | left
      · have current := orderly.current _ (arrives.mem_iff.mpr List.mem_cons_self)
        exact current
      · exact orderly.current packet (mem_of_arrives arrives left)

theorem Invariant.step {next : World ι} (invariant : Invariant repeats inputs buffs world)
    (step : Step repeats world next) : Invariant repeats inputs buffs next := by
  cases step with
  | ask writing => exact invariant.ask writing
  | serve round running arrives received served =>
      exact invariant.serve running arrives received served
  | shutDown running arrives =>
      refine invariant.network nofun invariant.received (fun packet member =>
        invariant.packets packet (mem_of_arrives arrives member)) (fun d => ?_) fun once => ?_
      · exact pending_of_kept (invariant.pending d) arrives (fun _ => id) (fun _ => rfl) id
          fun _ => .inl rfl
      · exact (invariant.orderly once).of_count (count_rest_le arrives) fun packet member =>
          (invariant.orderly once).current packet (mem_of_arrives arrives member)
  | crash =>
      refine invariant.network nofun invariant.received invariant.packets (fun d waiting => ?_)
        fun once => ?_
      · exact .inr (.inl rfl)
      · exact (invariant.orderly once).of_count (fun _ => Nat.le_refl _)
          (invariant.orderly once).current
  | receive beyond waiting arrives => exact invariant.receive beyond waiting arrives
  | fail running => exact invariant.fail
  | @lose packet rest arrives =>
      refine invariant.network invariant.server invariant.received (fun packet member =>
        invariant.packets packet (mem_of_arrives arrives member)) (fun d => ?_) fun once => ?_
      · refine pending_of_kept (invariant.pending d) arrives (fun _ => id) id (fun gone => ?_)
          fun its => ?_
        · by_cases same : d = packet.client
          · rw [same, Function.update_self]
          · rw [Function.update_of_ne same, gone]
        · rw [← its, Function.update_self]
          exact .inr (.inl rfl)
      · exact (invariant.orderly once).of_count (count_rest_le arrives) fun packet member =>
          (invariant.orderly once).current packet (mem_of_arrives arrives member)
  | @duplicate packet member again =>
      refine invariant.network invariant.server invariant.received (fun other found => ?_)
        (fun d waiting => ?_) fun once => absurd again once
      · rcases List.mem_cons.mp found with rfl | earlier
        · exact invariant.packets other member
        · exact invariant.packets other earlier
      · refine (invariant.pending d waiting).imp_right (Or.imp_right ?_)
        rintro ⟨other, found, its⟩
        exact ⟨other, List.mem_cons_of_mem _ found, its⟩

end Steps

/-- In every order of the steps of the server, of any number of clients and of the network, each
client sends its lines one after another and shows one text for each, also one that fails. A text is
the server's answer to a message of that client, behind other messages that clients have sent, and
to the one it has just sent where the network repeats no datagram. A client whose loop has ended has
shown a text for each of its lines. -/
theorem replies_shown {repeats : Prop} {inputs : ι → Istream} {buffs : ι → Buffer 256}
    {world : World ι}
    (run : Relation.ReflTransGen (Step repeats) (World.start inputs buffs) world) (c : ι) :
    Converses repeats (inputs c) (buffs c) world c ∧ world.Pending c := by
  have invariant : Invariant repeats inputs buffs world := by
    induction run with
    | refl => exact invariant_start
    | tail _ step ih => exact ih.step step
  exact ⟨invariant.conversations c, invariant.pending c⟩

def letterRound : Round :=
  ⟨.data (ascii "a"), 0, some fun _ => 0, []⟩

/-- The message `a` arrives twice, and the second reply is taken for the one to `5`. -/
theorem replies_shown_repeated : ∃ world : World Unit,
    Relation.ReflTransGen (Step True)
        (World.start (fun _ : Unit => ⟨ascii "a\n5\n", true⟩) fun _ => .zeroed 256) world ∧
      Converses True ⟨ascii "a\n5\n", true⟩ (.zeroed 256) world () ∧
      (world.client ()).asked = [ascii "a", ascii "5"] ∧
        (world.client ()).shown = [ascii "x", ascii "x"] := by
  have run : Relation.ReflTransGen (Step True)
      (World.start (fun _ : Unit => ⟨ascii "a\n5\n", true⟩) fun _ => .zeroed 256) _ :=
    .tail (.tail (.tail (.tail (.tail (.tail (.tail .refl
      (.ask (c := ()) rfl))
      (.duplicate List.mem_cons_self trivial))
      (.serve letterRound rfl (.refl _) rfl rfl))
      (.receive [] rfl (.refl _)))
      (.serve letterRound rfl (.refl _) rfl rfl))
      (.ask (c := ()) rfl))
      (.receive [] rfl (.swap _ _ _))
  exact ⟨_, run, (replies_shown run ()).1, rfl, rfl⟩

end NetworkServices.Palindrome
