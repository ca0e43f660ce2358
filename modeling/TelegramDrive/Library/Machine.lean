import Mathlib.Data.List.Basic

namespace TelegramDrive

universe u v

/-!
# Executable transition systems and their permitted runs

A machine is a guarded step function: an event that is not enabled has no
successor.  The same function replays a concrete schedule and carries every
invariance proof, so a guard used in a proof is the guard that is executed.

All nondeterminism lives in the events.  A run may in addition be restricted
by a side condition on each step, evaluated in the state before that step.
An invariant under such a condition is proved once here by induction on the
run; a particular machine then supplies only its step lemma.
-/

/-- A guarded step function.  `none` means that the event is not enabled. -/
structure Machine (State : Type u) (Event : Type v) where
  step : State -> Event -> Option State

namespace Machine

variable {State : Type u} {Event : Type v} (machine : Machine State Event)

/-- Replay a schedule, failing at the first event that is not enabled. -/
def replay (state : State) (events : List Event) : Option State :=
  events.foldlM machine.step state

@[simp] theorem replay_nil (state : State) : machine.replay state [] = some state := rfl

@[simp] theorem replay_cons (state : State) (event : Event) (events : List Event) :
    machine.replay state (event :: events) =
      (machine.step state event).bind (fun middle => machine.replay middle events) := rfl

theorem replay_append (state : State) (before after : List Event) :
    machine.replay state (before ++ after) =
      (machine.replay state before).bind (fun middle => machine.replay middle after) := by
  unfold replay
  rw [List.foldlM_append]
  rfl

/-- The runs from one state to another whose every step is permitted. -/
inductive Run (permitted : State -> Event -> Prop) : State -> List Event -> State -> Prop
  | stop (state : State) : Run permitted state [] state
  | take {state middle final : State} {event : Event} {events : List Event}
      (allowed : permitted state event) (moved : machine.step state event = some middle)
      (later : Run permitted middle events final) : Run permitted state (event :: events) final

/-- The side condition that permits everything. -/
def anything : State -> Event -> Prop := fun _ _ => True

/-- A state that some unrestricted run reaches. -/
def Reachable (initial state : State) : Prop :=
  Exists fun events : List Event => machine.Run anything initial events state

variable {machine}

variable {final state : State} {events : List Event} {permitted : State -> Event -> Prop}

/-- An invariant that every permitted step preserves survives every run. -/
theorem Run.invariant (property : State -> Prop)
    (preserved : forall state event next, permitted state event -> property state ->
      machine.step state event = some next -> property next)
    (run : machine.Run permitted state events final) (start : property state) : property final := by
  induction run with
  | stop state => exact start
  | take allowed moved later ih =>
    exact ih (preserved _ _ _ allowed start moved)

theorem Run.append {first middle : State}
    {before after : List Event} (early : machine.Run permitted first before middle)
    (late : machine.Run permitted middle after final) :
    machine.Run permitted first (before ++ after) final := by
  induction early with
  | stop state => exact late
  | take allowed moved later ih =>
    exact .take allowed moved (ih late)

theorem Run.snoc {first middle : State}
    {before : List Event} {event : Event} (early : machine.Run permitted first before middle)
    (allowed : permitted middle event) (moved : machine.step middle event = some final) :
    machine.Run permitted first (before ++ [event]) final :=
  early.append (.take allowed moved (.stop final))

/-- The machine that takes only the steps a decidable side condition allows. -/
def guarded (machine : Machine State Event) (allow : State -> Event -> Bool) :
    Machine State Event where
  step state event := if allow state event then machine.step state event else none

/-- A successful replay under a side condition is a run it permits. -/
theorem run_of_guarded_replay {allow : State -> Event -> Bool}
    (replayed : (machine.guarded allow).replay state events = some final) :
    machine.Run (fun state event => allow state event = true) state events final := by
  induction events generalizing state with
  | nil =>
    cases replayed
    exact .stop _
  | cons event events ih =>
    rw [replay_cons, Option.bind_eq_some_iff] at replayed
    rcases replayed with ⟨middle, moved, later⟩
    simp only [guarded] at moved
    split at moved
    next allowed => exact .take allowed moved (ih later)
    · cases moved

theorem run_of_replay
    (replayed : machine.replay state events = some final) : machine.Run anything state events final := by
  induction events generalizing state with
  | nil =>
    cases replayed
    exact .stop _
  | cons event events ih =>
    rw [replay_cons, Option.bind_eq_some_iff] at replayed
    rcases replayed with ⟨middle, moved, later⟩
    exact .take trivial moved (ih later)

/-- What an outcome has is decidable, when it is decidable of a value. -/
instance decidableExistsSome {Value : Type u} {outcome : Option Value} {holds : Value -> Prop} [DecidablePred holds] :
    Decidable (Exists fun value => outcome = some value ∧ holds value) :=
  match outcome with
  | none => isFalse nofun
  | some value => decidable_of_iff (holds value) ⟨fun held => ⟨value, rfl, held⟩, fun ⟨_, same, held⟩ =>
      Option.some.inj same ▸ held⟩

section Replays

variable {holds : State -> Prop} [DecidablePred holds]

/-- A replay that comes to a state with a decidable property is a run to such a state. -/
theorem exists_run (replayed : (machine.replay state events).any (fun final => decide (holds final)) = true) :
    Exists fun final => machine.Run anything state events final ∧ holds final := by
  rcases (Option.any_eq_true _ _).mp replayed with ⟨final, reached, held⟩
  exact ⟨final, run_of_replay reached, of_decide_eq_true held⟩

theorem exists_guarded_run {allow : State -> Event -> Bool}
    (replayed : ((machine.guarded allow).replay state events).any (fun final => decide (holds final)) = true) :
    Exists fun final => machine.Run (fun state event => allow state event = true) state events final ∧ holds final := by
  rcases (Option.any_eq_true _ _).mp replayed with ⟨final, reached, held⟩
  exact ⟨final, run_of_guarded_replay reached, of_decide_eq_true held⟩

end Replays

/-- Every reachable state satisfies what the initial state satisfies and
every step preserves. -/
theorem Reachable.invariant {property : State -> Prop} {initial : State}
    (preserved : forall state event next, property state ->
      machine.step state event = some next -> property next)
    (reached : machine.Reachable initial state) (start : property initial) : property state := by
  rcases reached with ⟨events, run⟩
  exact run.invariant property (fun state event next _ => preserved state event next) start

/-- What takes turns with others is a list of threads; these are the threads around the one
whose turn it is, which goes on or ends. -/
theorem threads_around {Thread : Type u} {thread : Thread} {index : Nat} {threads : List Thread}
    (found : threads[index]? = some thread) :
    Exists fun before => Exists fun rest => threads = before ++ thread :: rest ∧
      threads.eraseIdx index = before ++ rest ∧ forall next, threads.set index next = before ++ next :: rest := by
  rcases List.getElem?_eq_some_iff.mp found with ⟨inside, same⟩
  refine ⟨threads.take index, threads.drop (index + 1), ?_, List.eraseIdx_eq_take_drop_succ threads index, ?_⟩
  · rw [← same, List.getElem_cons_drop, List.take_append_drop]
  · intro next
    rw [List.set_eq_take_append_cons_drop, if_pos inside]

/-- A run goes on under a condition that each of its events meets. -/
theorem Run.permits (meets : forall state event, event ∈ events -> permitted state event)
    (run : machine.Run anything state events final) : machine.Run permitted state events final := by
  induction run with
  | stop state => exact .stop state
  | take allowed moved later ih =>
    exact .take (meets _ _ List.mem_cons_self) moved
      (ih fun state event member => meets state event (List.mem_cons_of_mem _ member))

end Machine
end TelegramDrive
