import Mathlib.Data.List.Basic

/-! Threads of one process. A main loop starts them and each works on its own state, but
when one of them ends the process, all of them end. -/

set_option autoImplicit false

namespace NetworkServices

variable {Thread Call Action Ending : Type}

/-- What the main loop does with the result of a call, start a thread or not or end the
process, and what a thread does with the result of its next call. -/
structure Threaded (Thread Call Action Ending : Type) where
  start : Thread
  main : Call → Bool ⊕ Ending
  act : Thread → Action → Option (Thread ⊕ Ending)

structure Process (Thread Ending : Type) where
  threads : List Thread
  ended : Option Ending

inductive Event (Call Action : Type) where
  | main (call : Call)
  | thread (index : Nat) (action : Action)

namespace Threaded

variable {program : Threaded Thread Call Action Ending}

inductive Step (program : Threaded Thread Call Action Ending) :
    Process Thread Ending → Event Call Action → Process Thread Ending → Prop where
  | spawn {threads : List Thread} {call : Call} (called : program.main call = .inl true) :
      Step program ⟨threads, none⟩ (.main call) ⟨threads ++ [program.start], none⟩
  | idle {threads : List Thread} {call : Call} (called : program.main call = .inl false) :
      Step program ⟨threads, none⟩ (.main call) ⟨threads, none⟩
  | stop {threads : List Thread} {call : Call} {ending : Ending}
      (called : program.main call = .inr ending) :
      Step program ⟨threads, none⟩ (.main call) ⟨threads, some ending⟩
  | act {threads : List Thread} {index : Nat} {thread next : Thread} {action : Action}
      (present : threads[index]? = some thread)
      (acted : program.act thread action = some (.inl next)) :
      Step program ⟨threads, none⟩ (.thread index action) ⟨threads.set index next, none⟩
  | exit {threads : List Thread} {index : Nat} {thread : Thread} {action : Action}
      {ending : Ending} (present : threads[index]? = some thread)
      (acted : program.act thread action = some (.inr ending)) :
      Step program ⟨threads, none⟩ (.thread index action) ⟨threads, some ending⟩

theorem Step.running {process next : Process Thread Ending} {event : Event Call Action}
    (step : Step program process event next) : process.ended = none := by
  cases step with
  | spawn | idle | stop | act | exit => rfl

inductive Run (program : Threaded Thread Call Action Ending)
    (allowed : Process Thread Ending → Event Call Action → Prop) :
    List (Event Call Action) → Process Thread Ending → Prop where
  | start : Run program allowed [] ⟨[], none⟩
  | tail {events : List (Event Call Action)} {process next : Process Thread Ending}
      (run : Run program allowed events process) (event : Event Call Action)
      (permitted : allowed process event) (step : Step program process event next) :
      Run program allowed (events ++ [event]) next

/-- What a thread comes to by its own actions, without any other thread. -/
inductive Alone (program : Threaded Thread Call Action Ending) : List Action → Thread → Prop where
  | start : Alone program [] program.start
  | tail {actions : List Action} {action : Action} {thread next : Thread}
      (alone : Alone program actions thread)
      (acted : program.act thread action = some (.inl next)) :
      Alone program (actions ++ [action]) next

def own (index : Nat) (events : List (Event Call Action)) : List Action :=
  events.filterMap fun
    | .main _ => none
    | .thread actor action => if actor = index then some action else none

section Own

variable {events : List (Event Call Action)} {index : Nat}

@[simp] theorem own_main (call : Call) : own index (events ++ [.main call]) = own index events := by
  rw [own, List.filterMap_append]
  exact List.append_nil _

theorem own_thread_self (action : Action) :
    own index (events ++ [.thread index action]) = own index events ++ [action] := by
  rw [own, List.filterMap_append, List.filterMap_cons]
  dsimp only
  rw [if_pos rfl]
  rfl

theorem own_thread_other {actor : Nat} (other : actor ≠ index) (action : Action) :
    own index (events ++ [.thread actor action]) = own index events := by
  rw [own, List.filterMap_append, List.filterMap_cons]
  dsimp only
  rw [if_neg other]
  exact List.append_nil _

end Own

section Run

variable {allowed : Process Thread Ending → Event Call Action → Prop}
  {events : List (Event Call Action)} {process : Process Thread Ending}

theorem Run.mono {wider : Process Thread Ending → Event Call Action → Prop}
    (weaker : ∀ process event, allowed process event → wider process event)
    (run : Run program allowed events process) : Run program wider events process := by
  induction run with
  | start => exact .start
  | tail run event permitted step ih => exact .tail ih event (weaker _ _ permitted) step

theorem own_eq_nil (run : Run program allowed events process) (running : process.ended = none)
    {index : Nat} (absent : process.threads.length ≤ index) : own index events = [] := by
  induction run with
  | start => rfl
  | tail run event permitted step ih =>
      cases step with
      | spawn called =>
          rw [own_main]
          rw [List.length_append] at absent
          exact ih rfl (Nat.le_of_add_right_le absent)
      | idle called =>
          rw [own_main]
          exact ih rfl absent
      | stop called => cases running
      | act present acted =>
          rw [List.length_set] at absent
          have started := (List.getElem?_eq_some_iff.1 present).1
          rw [own_thread_other (Nat.ne_of_lt (Nat.lt_of_lt_of_le started absent))]
          exact ih rfl absent
      | exit present acted => cases running

/-- As long as the process runs, every thread is where its own actions have brought it. -/
theorem alone_of_running (run : Run program allowed events process)
    (running : process.ended = none) {index : Nat} {thread : Thread}
    (present : process.threads[index]? = some thread) : Alone program (own index events) thread := by
  induction run generalizing thread with
  | start => cases present
  | tail run event permitted step ih =>
      cases step with
      | spawn called =>
          rw [own_main]
          rw [List.getElem?_append] at present
          split at present
          case isTrue earlier => exact ih rfl present
          case isFalse later =>
            rw [own_eq_nil run rfl (Nat.le_of_not_lt later)]
            obtain ⟨_, same⟩ := List.getElem?_eq_some_iff.1 present
            rw [List.getElem_singleton] at same
            exact same ▸ .start
      | idle called =>
          rw [own_main]
          exact ih rfl present
      | stop called => cases running
      | act held acted =>
          rename_i actor acting next action
          cases decEq actor index with
          | isTrue same =>
              rw [same] at held present
              rw [List.getElem?_set_self (List.getElem?_eq_some_iff.1 held).1] at present
              cases present
              rw [same, own_thread_self]
              exact .tail (ih rfl held) acted
          | isFalse other =>
              rw [List.getElem?_set_ne other] at present
              rw [own_thread_other other]
              exact ih rfl present
      | exit held acted => cases running

/-- A process that still runs has made no step that ends it, so every run of it is one of
the steps that leave it running. -/
theorem run_of_running {gentle : Process Thread Ending → Event Call Action → Prop}
    (needed : ∀ process event next, Step program process event next → next.ended = none →
      gentle process event)
    (run : Run program allowed events process) (running : process.ended = none) :
    Run program gentle events process := by
  induction run with
  | start => exact .start
  | tail run event permitted step ih =>
      have before := step.running
      exact .tail (ih before) event (needed _ _ _ step running) step

theorem running_of_run {gentle : Process Thread Ending → Event Call Action → Prop}
    (enough : ∀ process event next, Step program process event next → gentle process event →
      next.ended = none)
    (run : Run program gentle events process) : process.ended = none := by
  cases run with
  | start => rfl
  | tail run event permitted step => exact enough _ _ _ step permitted

end Run

end Threaded

end NetworkServices
