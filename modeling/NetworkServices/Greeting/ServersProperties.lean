import NetworkServices.Greeting.Servers

/-! The C server greets every connection. The C++ server greets and closes descriptor 0:
that is the standard input at first, and the next connection only from then on. -/

set_option autoImplicit false

namespace NetworkServices.Greeting

variable {κ : Type}

/-!
## The loop of `server4.c`
-/

theorem accept_some (table : Table κ) (client : κ) :
    accept table (some client) =
      (Int.ofNat table.lowestFree, (table.allocate (.connection client)).2) := rfl

theorem sending_response_some (table : Table κ) (client : κ) (rest : List (Option κ)) :
    sending_response table (some client :: rest) =
      .accepted table.lowestFree client :: .wrote table.lowestFree (.connection client) msg ::
        .closed table.lowestFree (some (.connection client)) ::
          sending_response ((table.allocate (.connection client)).2.close table.lowestFree)
            rest := by
  have found := table.lookup_allocate (.connection client)
  have back : (Int.ofNat table.lowestFree).toNat = table.lowestFree := rfl
  have nonnegative : ¬ Int.ofNat table.lowestFree < 0 := Int.not_lt_of_ge (Int.natCast_nonneg _)
  rw [sending_response, accept_some]
  simp only [if_neg nonnegative, accepted, write, back, found]
  rfl

theorem sending_response_serves (table : Table κ) (incoming : List (Option κ)) :
    Serves (sending_response table incoming) := by
  induction incoming generalizing table with
  | nil => exact .nil
  | cons next rest ih =>
      cases next with
      | none => exact .nil
      | some client =>
          rw [sending_response_some]
          exact .connection (ih _)

/-!
## The loop of `server6.cpp`
-/

theorem serverLoop_some (table : Table κ) (client : κ) (rest : List (Option (κ × Pointer))) :
    serverLoop table (some (client, .spare) :: rest) =
      .accepted table.lowestFree client ::
        match (table.allocate (.connection client)).2.lookup 0 with
        | none => []
        | some target =>
            .wrote 0 target msg :: .closed 0 (some target) ::
              serverLoop ((table.allocate (.connection client)).2.close 0) rest := by
  have back : (Int.ofNat table.lowestFree).toNat = table.lowestFree := rfl
  have valid : Int.ofNat table.lowestFree ≠ -1 := Int.noConfusion
  rw [serverLoop, Option.map_some, accept_some]
  simp only [if_neg valid, ne_eq, not_true_eq_false, if_false, Option.map_some, Option.getD_some,
    accepted, write, back]
  cases found : (table.allocate (.connection client)).2.lookup 0 with
  | none => rfl
  | some target => rfl

/-- Through any other pointer the first store is the end. -/
theorem serverLoop_stray {pointer : Pointer} (stray : pointer ≠ .spare) (table : Table κ)
    (client : κ) (rest : List (Option (κ × Pointer))) :
    serverLoop table (some (client, pointer) :: rest) =
      .accepted table.lowestFree client :: if pointer = .used then [.corrupted] else [] := by
  have valid : Int.ofNat table.lowestFree ≠ -1 := Int.noConfusion
  rw [serverLoop, Option.map_some, accept_some]
  simp only [if_neg valid, ne_eq, not_true_eq_false, if_false]
  cases pointer with
  | spare => exact absurd rfl stray
  | used | fault => rfl

theorem not_serves_stray {pointer : Pointer} (stray : pointer ≠ .spare) (table : Table κ)
    (client : κ) (rest : List (Option (κ × Pointer))) :
    ¬ Serves (serverLoop table (some (client, pointer) :: rest)) := by
  intro serves
  rw [serverLoop_stray stray] at serves
  by_cases used : pointer = .used
  · rw [if_pos used] at serves
    cases serves
  · rw [if_neg used] at serves
    cases serves

/-- The pointers of the passes that get a connection. -/
def pointers (incoming : List (Option (κ × Pointer))) : List Pointer :=
  (incoming.takeWhile Option.isSome).filterMap (Option.map Prod.snd)

theorem pointers_some (client : κ) (pointer : Pointer) (rest : List (Option (κ × Pointer))) :
    pointers (some (client, pointer) :: rest) = pointer :: pointers rest := rfl

theorem serverLoop_serves_of_free {table : Table κ} (free : table.lookup 0 = none)
    (incoming : List (Option (κ × Pointer))) :
    Serves (serverLoop table incoming) ↔ ∀ pointer ∈ pointers incoming, pointer = .spare := by
  induction incoming generalizing table with
  | nil => exact iff_of_true .nil (fun pointer member => by cases member)
  | cons next rest ih =>
      cases next with
      | none => exact iff_of_true .nil (fun pointer member => by cases member)
      | some connection =>
          obtain ⟨client, pointer⟩ := connection
          rw [pointers_some, List.forall_mem_cons]
          by_cases spare : pointer = .spare
          · subst spare
            have lowest := table.lowestFree_eq_zero_iff.mpr free
            have found := table.lookup_allocate (.connection client)
            rw [lowest] at found
            rw [serverLoop_some, found, lowest, and_iff_right rfl,
              ← ih (DescriptorTable.lookup_close_self (table.allocate (.connection client)).2 0)]
            constructor
            · intro serves
              cases serves with
              | connection later => exact later
            · exact .connection
          · exact iff_of_false (not_serves_stray spare table client rest) fun all => spare all.1

/-- When descriptor 0 is open, the first connection is not greeted and stays open; the
file behind descriptor 0 gets its greeting. -/
theorem serverLoop_first_lost {table : Table κ} {target : File κ}
    (used : table.lookup 0 = some target) (client : κ) (rest : List (Option (κ × Pointer))) :
    table.lowestFree ≠ 0 ∧ serverLoop table (some (client, .spare) :: rest) =
      .accepted table.lowestFree client :: .wrote 0 target msg :: .closed 0 (some target) ::
        serverLoop ((table.allocate (.connection client)).2.close 0) rest := by
  have positive : table.lowestFree ≠ 0 := by
    rw [Ne, table.lowestFree_eq_zero_iff, used]
    exact Option.some_ne_none target
  have kept := DescriptorTable.lookup_allocate_of_ne (.connection client) (Ne.symm positive)
  rw [used] at kept
  refine ⟨positive, ?_⟩
  rw [serverLoop_some, kept]

theorem not_serves_of_used {table : Table κ} {target : File κ} (used : table.lookup 0 = some target)
    (client : κ) (pointer : Pointer) (rest : List (Option (κ × Pointer))) :
    ¬ Serves (serverLoop table (some (client, pointer) :: rest)) := by
  by_cases spare : pointer = .spare
  · subst spare
    intro serves
    obtain ⟨positive, lost⟩ := serverLoop_first_lost used client rest
    rw [lost] at serves
    generalize table.lowestFree = fd at serves positive
    cases serves
    exact positive rfl
  · exact not_serves_stray spare table client rest

theorem serverLoop_serves_iff (table : Table κ) (incoming : List (Option (κ × Pointer))) :
    Serves (serverLoop table incoming) ↔ incoming.head?.join = none ∨
      table.lookup 0 = none ∧ ∀ pointer ∈ pointers incoming, pointer = .spare := by
  cases incoming with
  | nil => exact iff_of_true .nil (.inl rfl)
  | cons next rest =>
      cases next with
      | none => exact iff_of_true .nil (.inl rfl)
      | some connection =>
          have connected : (some connection :: rest).head?.join ≠ none := Option.some_ne_none _
          rw [or_iff_right connected]
          cases used : table.lookup 0 with
          | none => rw [serverLoop_serves_of_free used, and_iff_right rfl]
          | some target =>
              exact iff_of_false (not_serves_of_used used connection.1 connection.2 rest)
                fun both => Option.some_ne_none target both.1

/-- Both servers greet every connection on its own descriptor, over any connections and
whatever else is open, exactly when there is no connection, or descriptor 0 is not open
when the accept loop of the C++ server starts and its pointer, which nothing sets, points
to spare memory for every connection. -/
theorem servers_serve_iff (table : Table κ) (incoming : List (Option (κ × Pointer))) :
    (Serves (sending_response table (incoming.map (Option.map Prod.fst))) ∧
        Serves (serverLoop table incoming)) ↔
      incoming.head?.join = none ∨
        table.lookup 0 = none ∧ ∀ pointer ∈ pointers incoming, pointer = .spare := by
  rw [serverLoop_serves_iff]
  exact and_iff_right (sending_response_serves table _)

/-- The three standard descriptors and the listening socket. -/
def standardTable : Table Nat :=
  ⟨[some (.other 0), some (.other 1), some (.other 2), some (.other 3)]⟩

/-- With these open the first client of the C++ server is not greeted: its greeting goes to
the standard input, or a fault comes first. -/
theorem first_client_not_greeted :
    ¬ (Serves (sending_response standardTable [some 1, some 2]) ∧
        Serves (serverLoop standardTable [some (1, .spare), some (2, .spare)])) ∧
      ¬ (Serves (sending_response standardTable [some 1, some 2]) ∧
        Serves (serverLoop standardTable [some (1, .fault), some (2, .fault)])) := by
  refine ⟨fun served => ?_, fun served => ?_⟩
  · exact not_serves_of_used rfl 1 .spare _ served.2
  · exact not_serves_of_used rfl 1 .fault _ served.2

end NetworkServices.Greeting
