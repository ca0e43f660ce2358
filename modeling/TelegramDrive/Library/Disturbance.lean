import Mathlib.Data.List.Basic

namespace TelegramDrive

universe u v w

/-!
# Programs whose steps may be disturbed

A program changes a world step by step.  Each step can be disturbed: it may fail, which
the program can answer, or the program may be stopped there, which it cannot.  What
disturbs a run is a list with one entry for each step, and behind its end nothing is
disturbed.  Two kinds of statements are made about a program: what holds whatever
disturbs it, and what a run reaches that nothing disturbs.
-/

namespace Disturbance

/-- How a program ends. -/
inductive Outcome (α : Type u)
  | done (value : α)
  | failed (error : String)
  | stopped
deriving DecidableEq

/-- A program, given the world and what disturbs its steps. -/
def Program (World : Type u) (Fault : Type v) (α : Type w) : Type max u v w :=
  World -> List (Option Fault) -> Outcome α × World × List (Option Fault)

namespace Program

variable {World : Type u} {Fault : Type v} {α β : Type w}

/-- One step, which is told what disturbs it. -/
def step (act : Option Fault -> World -> Outcome α × World) : Program World Fault α :=
  fun world faults => ((act faults.head?.join world).1, (act faults.head?.join world).2, faults.tail)

protected def pure (value : α) : Program World Fault α := fun world faults => (.done value, world, faults)

protected def bind (first : Program World Fault α) (next : α -> Program World Fault β) : Program World Fault β :=
  fun world faults =>
    match first world faults with
    | (.done value, later, rest) => next value later rest
    | (.failed error, later, rest) => (.failed error, later, rest)
    | (.stopped, later, rest) => (.stopped, later, rest)

instance : Monad (Program World Fault) where
  pure := Program.pure
  bind := Program.bind

def fail (error : String) : Program World Fault α := fun world faults => (.failed error, world, faults)

/-- Answer a failure. -/
def handle (program : Program World Fault α) (answer : String -> Program World Fault α) : Program World Fault α :=
  fun world faults =>
    match program world faults with
    | (.failed error, later, rest) => answer error later rest
    | ended => ended

/-- Up to so many more attempts, of which the last one's error stays. -/
def attempts (program : Program World Fault α) : Nat -> String -> Program World Fault α
  | 0, error => fail error
  | more + 1, _ => program.handle (attempts program more)

/-- Some steps, one after the other. -/
def each : List (Program World Fault PUnit.{w + 1}) -> Program World Fault PUnit.{w + 1}
  | [] => pure PUnit.unit
  | first :: rest => do
      first
      each rest

/-! ## Whatever disturbs a program -/

/-- A condition on the world for each way to end. -/
def After (done : α -> World -> Prop) (failed stopped : World -> Prop) : Outcome α -> World -> Prop
  | .done value, world => done value world
  | .failed _, world => failed world
  | .stopped, world => stopped world

/-- From a world of this kind the program ends in these ways, whatever disturbs it. -/
structure Ends (before : World -> Prop) (program : Program World Fault α) (done : α -> World -> Prop)
    (failed stopped : World -> Prop) : Prop where
  run : forall world faults, before world ->
    After done failed stopped (program world faults).1 (program world faults).2.1

/-- A program that leaves the same world when it fails and when it is stopped. -/
abbrev Leads (before : World -> Prop) (program : Program World Fault α) (done : α -> World -> Prop)
    (otherwise : World -> Prop) : Prop :=
  Ends before program done otherwise otherwise

/-- A program that leaves the world as it was, whatever disturbs it. -/
abbrev Keeps (kept : World -> Prop) (program : Program World Fault α) : Prop :=
  Leads kept program (fun _ => kept) kept

section Rules

variable {before kept failed stopped : World -> Prop} {program : Program World Fault α} {done : α -> World -> Prop}

theorem Ends.consequence {stronger failed' stopped' : World -> Prop} {done' : α -> World -> Prop}
    (ends : Ends before program done failed stopped) (start : forall world, stronger world -> before world)
    (final : forall value world, done value world -> done' value world)
    (failing : forall world, failed world -> failed' world)
    (stopping : forall world, stopped world -> stopped' world) : Ends stronger program done' failed' stopped' where
  run := by
    intro world faults held
    have early := ends.run world faults (start world held)
    cases ended : (program world faults).1 with
    | done value =>
      rw [ended] at early
      exact final value _ early
    | failed error =>
      rw [ended] at early
      exact failing _ early
    | stopped =>
      rw [ended] at early
      exact stopping _ early

theorem Ends.start {stronger : World -> Prop} (ends : Ends before program done failed stopped)
    (start : forall world, stronger world -> before world) : Ends stronger program done failed stopped :=
  ends.consequence start (fun _ _ held => held) (fun _ held => held) (fun _ held => held)

theorem Ends.final {done' : α -> World -> Prop} (ends : Ends before program done failed stopped)
    (final : forall value world, done value world -> done' value world) : Ends before program done' failed stopped :=
  ends.consequence (fun _ held => held) final (fun _ held => held) (fun _ held => held)

/-- What is left where a program is not done may be stated more weakly. -/
theorem Ends.weaken {weaker : World -> Prop} (ends : Ends before program done failed failed)
    (weakens : forall world, failed world -> weaker world) : Leads before program done weaker :=
  ends.consequence (fun _ held => held) (fun _ _ held => held) weakens weakens

theorem ends_fail (error : String) : Ends failed (fail error : Program World Fault α) done failed stopped where
  run := fun _ _ held => held

theorem ends_step {act : Option Fault -> World -> Outcome α × World}
    (acts : forall fault world, before world -> After done failed stopped (act fault world).1 (act fault world).2) :
    Ends before (step act) done failed stopped where
  run := fun world faults held => acts faults.head?.join world held

/-- A program goes on behind a first part when that is done, and ends with it otherwise. -/
theorem Ends.bind {next : α -> Program World Fault β} {done' : β -> World -> Prop}
    (starts : Ends before program done failed stopped)
    (goes : forall value, Ends (done value) (next value) done' failed stopped) :
    Ends before (program >>= next) done' failed stopped where
  run := by
    intro world faults held
    have early := starts.run world faults held
    change After done' failed stopped (Program.bind program next world faults).1
      (Program.bind program next world faults).2.1
    unfold Program.bind
    cases ran : program world faults with
    | mk outcome after =>
      rw [ran] at early
      cases outcome with
      | done value => exact (goes value).run after.1 after.2 early
      | failed error | stopped => exact early

theorem Ends.handle {between : World -> Prop} {answer : String -> Program World Fault α}
    (starts : Ends before program done between stopped)
    (answers : forall error, Ends between (answer error) done failed stopped) :
    Ends before (program.handle answer) done failed stopped where
  run := by
    intro world faults held
    have early := starts.run world faults held
    unfold Program.handle
    cases ran : program world faults with
    | mk outcome after =>
      rw [ran] at early
      cases outcome with
      | done value | stopped => exact early
      | failed error => exact (answers error).run after.1 after.2 early

/-- What a failed attempt leaves as it was is left by all attempts together. -/
theorem Ends.attempts (ends : Ends kept program done kept stopped) (more : Nat) (error : String) :
    Ends kept (program.attempts more error) done kept stopped := by
  induction more generalizing error with
  | zero => exact ends_fail error
  | succ more ih => exact ends.handle ih

/-- What holds in whatever way a program ends. -/
theorem Ends.always {after : World -> Prop} (ends : Ends before program (fun _ => after) after after) {world : World}
    (held : before world) (faults : List (Option Fault)) : after (program world faults).2.1 := by
  have ended := ends.run world faults held
  cases outcome : (program world faults).1 with
  | done value | failed error | stopped =>
    rw [outcome] at ended
    exact ended

/-- What every step leaves as it was when it is done is left by all of them. -/
theorem ends_each {steps : List (Program World Fault PUnit.{w + 1})}
    (keeps : forall one, one ∈ steps -> Ends kept one (fun _ => kept) failed stopped) :
    Ends kept (each steps) (fun _ => kept) failed stopped := by
  induction steps with
  | nil => exact ⟨fun _ _ held => held⟩
  | cons first rest ih =>
    apply (keeps first List.mem_cons_self).bind
    exact fun _ => ih fun one member => keeps one (List.mem_cons_of_mem _ member)

end Rules

/-! ## Runs that nothing disturbs -/

/-- From a world of this kind an undisturbed run is done, with this value and in this world. -/
def Reaches (before : World -> Prop) (program : Program World Fault α) (after : α -> World -> Prop) : Prop :=
  forall world, before world ->
    Exists fun value => Exists fun next => program world [] = (.done value, next, []) ∧ after value next

variable {first program : Program World Fault α}

theorem bind_done {world later : World} {value : α}
    (ran : first world [] = (.done value, later, [])) (next : α -> Program World Fault β) :
    (first >>= next) world [] = next value later [] := by
  change Program.bind first next world [] = _
  unfold Program.bind
  rw [ran]

variable {before : World -> Prop}

theorem Reaches.bind {next : α -> Program World Fault β}
    {between : α -> World -> Prop} {after : β -> World -> Prop} (starts : Reaches before first between)
    (goes : forall value, Reaches (between value) (next value) after) : Reaches before (first >>= next) after := by
  intro world held
  rcases starts world held with ⟨value, later, ran, middle⟩
  rcases goes value later middle with ⟨result, final, finished, reached⟩
  exact ⟨result, final, (bind_done ran next).trans finished, reached⟩

theorem Reaches.consequence {stronger : World -> Prop}
    {after weaker : α -> World -> Prop} (reaches : Reaches before program after)
    (start : forall world, stronger world -> before world)
    (final : forall value world, after value world -> weaker value world) : Reaches stronger program weaker := by
  intro world held
  rcases reaches world (start world held) with ⟨value, next, ran, reached⟩
  exact ⟨value, next, ran, final value next reached⟩

theorem Reaches.final {after weaker : α -> World -> Prop} (reaches : Reaches before program after)
    (final : forall value world, after value world -> weaker value world) : Reaches before program weaker :=
  reaches.consequence (fun _ held => held) final

/-- An undisturbed program that is done needs no answer. -/
theorem Reaches.handle {after : α -> World -> Prop}
    (reaches : Reaches before program after) (answer : String -> Program World Fault α) :
    Reaches before (program.handle answer) after := by
  intro world held
  rcases reaches world held with ⟨value, next, ran, reached⟩
  refine ⟨value, next, ?_, reached⟩
  unfold Program.handle
  rw [ran]

/-- An undisturbed program that is done is attempted once. -/
theorem Reaches.attempts {after : α -> World -> Prop}
    (reaches : Reaches before program after) (more : Nat) (error : String) :
    Reaches before (program.attempts (more + 1) error) after :=
  reaches.handle _

theorem reaches_each {kept : World -> Prop} {steps : List (Program World Fault PUnit.{w + 1})}
    (keeps : forall one, one ∈ steps -> Reaches kept one fun _ => kept) : Reaches kept (each steps) fun _ => kept := by
  induction steps with
  | nil => exact fun world held => ⟨PUnit.unit, world, rfl, held⟩
  | cons first rest ih =>
    apply (keeps first List.mem_cons_self).bind
    exact fun _ => ih fun one member => keeps one (List.mem_cons_of_mem _ member)

/-- From a world of this kind an undisturbed run fails, in this world. -/
def Refuses (before : World -> Prop) (program : Program World Fault α) (after : World -> Prop) : Prop :=
  forall world, before world ->
    Exists fun error => Exists fun next => program world [] = (.failed error, next, []) ∧ after next

theorem refuses_fail (before : World -> Prop) (error : String) :
    Refuses before (fail error : Program World Fault α) before :=
  fun world held => ⟨error, world, rfl, held⟩

theorem Refuses.bind {after : World -> Prop}
    (refuses : Refuses before first after) (next : α -> Program World Fault β) :
    Refuses before (first >>= next) after := by
  intro world held
  rcases refuses world held with ⟨error, later, ran, reached⟩
  refine ⟨error, later, ?_, reached⟩
  change Program.bind first next world [] = _
  unfold Program.bind
  rw [ran]

theorem Reaches.refuses {after : World -> Prop}
    {next : α -> Program World Fault β} {between : α -> World -> Prop} (starts : Reaches before first between)
    (refuses : forall value, Refuses (between value) (next value) after) : Refuses before (first >>= next) after := by
  intro world held
  rcases starts world held with ⟨value, later, ran, middle⟩
  rcases refuses value later middle with ⟨error, final, failed, reached⟩
  exact ⟨error, final, (bind_done ran next).trans failed, reached⟩

theorem Refuses.handle {between after : World -> Prop}
    {answer : String -> Program World Fault α} (refuses : Refuses before program between)
    (answers : forall error, Refuses between (answer error) after) : Refuses before (program.handle answer) after := by
  intro world held
  rcases refuses world held with ⟨error, later, ran, middle⟩
  rcases answers error later middle with ⟨other, final, failed, reached⟩
  refine ⟨other, final, ?_, reached⟩
  unfold Program.handle
  rw [ran]
  exact failed

theorem Refuses.attempts {kept : World -> Prop}
    (refuses : Refuses kept program kept) (more : Nat) (error : String) :
    Refuses kept (program.attempts more error) kept := by
  induction more generalizing error with
  | zero => exact refuses_fail kept error
  | succ more ih => exact refuses.handle ih

end Program
end Disturbance
end TelegramDrive
