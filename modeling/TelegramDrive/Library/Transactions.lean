import TelegramDrive.Library.Disturbance
import TelegramDrive.Library.Results

namespace TelegramDrive

universe u v w

/-!
# Statements inside and outside of transactions

A store has contents that are on disk, and possibly a transaction with contents of its
own.  A statement outside of a transaction reads and writes what is on disk; inside of one
it works on the transaction, which a commit puts on disk and a rollback drops.  A statement
that is disturbed may fail, with or without the transaction, or the program may be stopped
there.  What else belongs to the world stands beside the store.
-/

namespace Transactions

open Disturbance

/-- What happens at a statement.  What is left of a thing beside the store that was being made
is said in either case. -/
inductive Fault (Left : Type v)
  | fails (undone : Bool) (left : Left)
  | stops (left : Left)
deriving DecidableEq

structure World (Contents : Type u) (Beside : Type v) where
  disk : Contents
  working : Option Contents
  beside : Beside
deriving DecidableEq

namespace World

variable {Contents : Type u} {Beside : Type v}

/-- What a statement sees. -/
def view (world : World Contents Beside) : Contents := world.working.getD world.disk

/-- The transaction of a failed statement may be gone. -/
def undo (world : World Contents Beside) (undone : Bool) : World Contents Beside :=
  if undone then { world with
    working := none } else world

theorem undo_disk (world : World Contents Beside) (undone : Bool) : (world.undo undone).disk = world.disk := by
  cases undone <;> rfl

end World

variable {Contents : Type u} {Beside : Type v} {Left : Type v} {α : Type w}

/-- The programs over a store. -/
abbrev Statements (Contents : Type u) (Beside Left : Type v) (α : Type w) : Type max u v w :=
  Program (World Contents Beside) (Fault Left) α

/-- The programs that have nothing to report. -/
abbrev Script (Contents : Type u) (Beside Left : Type v) : Type max u v w :=
  Statements Contents Beside Left PUnit.{w + 1}

/-- A statement that nothing disturbs does what it does; a disturbed one fails or stops. -/
def statement (act : World Contents Beside -> Outcome α × World Contents Beside) :
    Statements Contents Beside Left α :=
  Program.step fun fault world =>
    match fault with
    | none => act world
    | some (.fails undone _) => (.failed "SQLite error", world.undo undone)
    | some (.stops _) => (.stopped, world)

/-- A look at what is seen. -/
def read (look : Contents -> Except String α) : Statements Contents Beside Left α :=
  statement fun world =>
    match look world.view with
    | .ok value => (.done value, world)
    | .error error => (.failed error, world)

/-- A change of what is seen, on disk unless there is a transaction. -/
def write (change : Contents -> Except String Contents) : Statements Contents Beside Left PUnit.{w + 1} :=
  statement fun world =>
    match change world.view with
    | .error error => (.failed error, world)
    | .ok changed =>
      match world.working with
      | none => (.done PUnit.unit, { world with
          disk := changed })
      | some _ => (.done PUnit.unit, { world with
          working := some changed })

def beginTransaction : Statements Contents Beside Left PUnit.{w + 1} :=
  statement fun world =>
    match world.working with
    | some _ => (.failed "cannot start a transaction within a transaction", world)
    | none => (.done PUnit.unit, { world with
        working := some world.disk })

def commit : Statements Contents Beside Left PUnit.{w + 1} :=
  statement fun world =>
    match world.working with
    | none => (.failed "cannot commit - no transaction is active", world)
    | some contents => (.done PUnit.unit, { world with
        disk := contents
        working := none })

def rollback : Statements Contents Beside Left PUnit.{w + 1} :=
  statement fun world =>
    match world.working with
    | none => (.failed "cannot rollback - no transaction is active", world)
    | some _ => (.done PUnit.unit, { world with
        working := none })

/-- Some changes, each by a statement. -/
def script (changes : List (Contents -> Except String Contents)) : Statements Contents Beside Left PUnit.{w + 1} :=
  Program.each (changes.map write)

/-- What the changes of a script make together. -/
def applyAll (changes : List (Contents -> Except String Contents)) (contents : Contents) : Except String Contents :=
  changes.foldlM (fun contents change => change contents) contents

theorem applyAll_cons (change : Contents -> Except String Contents) (rest : List (Contents -> Except String Contents))
    (contents : Contents) : applyAll (change :: rest) contents = change contents >>= applyAll rest := by
  unfold applyAll
  rw [List.foldlM_cons]

theorem applyAll_cons_ok {change : Contents -> Except String Contents}
    {rest : List (Contents -> Except String Contents)} {contents final : Contents}
    (made : applyAll (change :: rest) contents = .ok final) :
    Exists fun changed => change contents = .ok changed ∧ applyAll rest changed = .ok final := by
  rw [applyAll_cons] at made
  exact Results.bind_ok made

/-- A failure is answered with a rollback, whatever becomes of that, and stays a failure. -/
def rollingBack (body : Statements Contents Beside Left PUnit.{w + 1}) :
    Statements Contents Beside Left PUnit.{w + 1} :=
  body.handle fun error => do
    rollback.handle fun _ => pure PUnit.unit
    Program.fail error

/-! ## Rules for statements -/

/-- A condition on what is on disk, with or without a transaction. -/
def On (held : Contents -> Prop) (world : World Contents Beside) : Prop := held world.disk

/-- A condition on what is on disk, where no transaction is open. -/
def Outside (held : Contents -> Prop) (world : World Contents Beside) : Prop :=
  world.working = none ∧ held world.disk

/-- A condition on what is on disk and on the contents of the open transaction. -/
def Inside (held : Contents -> Contents -> Prop) (world : World Contents Beside) : Prop :=
  Exists fun contents => world.working = some contents ∧ held world.disk contents

section Rules

variable {before failed stopped : World Contents Beside -> Prop} {done : α -> World Contents Beside -> Prop}

variable {act : World Contents Beside -> Outcome α × World Contents Beside}

/-- What a statement does, and what is left where it fails or the program is stopped. -/
theorem ends_statement
    (acts : forall world, before world -> Program.After done failed stopped (act world).1 (act world).2)
    (fails : forall world undone, before world -> failed (world.undo undone))
    (stops : forall world, before world -> stopped world) :
    Program.Ends before (statement act : Statements Contents Beside Left α) done failed stopped := by
  apply Program.ends_step
  intro fault world held
  cases fault with
  | none => exact acts world held
  | some fault =>
    cases fault with
    | fails undone left => exact fails world undone held
    | stops left => exact stops world held

variable {look : Contents -> Except String α}

/-- A look changes nothing, but where it fails the transaction may be gone. -/
theorem ends_read (fails : forall world undone, before world -> failed (world.undo undone))
    (stops : forall world, before world -> stopped world) :
    Program.Ends before (read look : Statements Contents Beside Left α)
      (fun value world => before world ∧ look world.view = .ok value) failed stopped := by
  apply ends_statement _ fails stops
  intro world held
  cases looked : look world.view with
  | error error => exact fails world false held
  | ok value => exact ⟨held, looked⟩

variable {held : Contents -> Prop} {inside : Contents -> Contents -> Prop}

theorem On.undo {world : World Contents Beside} (there : On held world) (undone : Bool) :
    On held (world.undo undone) := by
  unfold On
  rw [World.undo_disk]
  exact there

/-- Whether or not a transaction is open, a look keeps what is on disk. -/
theorem ends_read_on (look : Contents -> Except String α) :
    Program.Leads (On held) (read look : Statements Contents Beside Left α)
      (fun value world => On held world ∧ look world.view = .ok value) (On held) :=
  ends_read (fun _ undone there => On.undo there undone) fun _ there => there

theorem Outside.undo {world : World Contents Beside} (there : Outside held world) (undone : Bool) :
    Outside held (world.undo undone) := by
  refine ⟨?_, (World.undo_disk world undone).symm ▸ there.2⟩
  cases undone
  · exact there.1
  · rfl

theorem ends_outside (acts : forall world, Outside held world ->
      Program.After done (Outside held) (Outside held) (act world).1 (act world).2) :
    Program.Leads (Outside held) (statement act : Statements Contents Beside Left α) done (Outside held) :=
  ends_statement acts (fun _ undone there => there.undo undone) fun _ there => there

/-- A statement inside of a transaction. -/
theorem ends_inside
    (acts : forall world contents, world.working = some contents -> inside world.disk contents ->
      Program.After done (On held) (On held) (act world).1 (act world).2)
    (below : forall disk contents, inside disk contents -> held disk) :
    Program.Leads (Inside inside) (statement act : Statements Contents Beside Left α) done (On held) := by
  have under : forall world : World Contents Beside, Inside inside world -> On held world :=
    fun _ ⟨contents, _, there⟩ => below _ contents there
  apply ends_statement
  · exact fun world ⟨contents, works, there⟩ => acts world contents works there
  · exact fun world undone there => (under world there).undo undone
  · exact under

theorem ends_beside
    (keeps : forall world, (act world).2.disk = world.disk ∧ (act world).2.working = world.working) :
    Program.Keeps (Outside held) (statement act : Statements Contents Beside Left α) := by
  apply ends_outside
  intro world there
  have after : Outside held (act world).2 := ⟨(keeps world).2.trans there.1, (keeps world).1.symm ▸ there.2⟩
  cases (act world).1 with
  | done value | failed error | stopped => exact after

variable {change : Contents -> Except String Contents} {held' : Contents -> Prop}

/-- Outside of a transaction a change is on disk at once. -/
theorem ends_write_outside
    (changes : forall contents changed, held contents -> change contents = .ok changed -> held' changed) :
    Program.Leads (Outside held) (write change : Script Contents Beside Left) (fun _ => Outside held') (Outside held) := by
  apply ends_outside
  rintro world ⟨quiet, there⟩
  unfold World.view
  rw [quiet]
  dsimp only [Option.getD_none]
  cases changed : change world.disk with
  | error error => exact ⟨quiet, there⟩
  | ok contents => exact ⟨rfl, changes _ _ there changed⟩

theorem ends_begin (fails : forall world undone, before world -> failed (world.undo undone))
    (stops : forall world, before world -> stopped world) :
    Program.Ends before (beginTransaction : Script Contents Beside Left)
      (fun _ world => Exists fun outer : World Contents Beside => before outer ∧ outer.working = none ∧
        world.disk = outer.disk ∧ world.working = some outer.disk) failed stopped := by
  apply ends_statement _ fails stops
  intro world there
  cases quiet : world.working with
  | some contents => exact fails world false there
  | none => exact ⟨world, there, quiet, rfl, rfl⟩

variable {inside' : Contents -> Contents -> Prop}

/-- Inside of a transaction a change leaves the disk alone. -/
theorem ends_write_inside
    (changes : forall disk contents changed, inside disk contents -> change contents = .ok changed ->
      inside' disk changed) (below : forall disk contents, inside disk contents -> held disk) :
    Program.Leads (Inside inside) (write change : Script Contents Beside Left) (fun _ => Inside inside') (On held) := by
  apply ends_inside _ below
  intro world contents works there
  unfold World.view
  rw [works]
  dsimp only [Option.getD_some]
  cases changed : change contents with
  | error error => exact below _ _ there
  | ok changed' => exact ⟨changed', rfl, changes _ _ _ there changed⟩

theorem ends_commit (commits : forall disk contents, inside disk contents -> held' contents)
    (below : forall disk contents, inside disk contents -> held disk) :
    Program.Leads (Inside inside) (commit : Script Contents Beside Left) (fun _ => Outside held') (On held) := by
  apply ends_inside _ below
  intro world contents works there
  rw [works]
  exact ⟨rfl, commits _ _ there⟩

theorem ends_rollback : Program.Keeps (On held) (rollback : Script Contents Beside Left) := by
  apply ends_statement
  · intro world there
    cases world.working <;> exact there
  · exact fun _ undone there => there.undo undone
  · exact fun _ there => there

theorem ends_rollingBack {body : Script Contents Beside Left}
    {done : PUnit.{w + 1} -> World Contents Beside -> Prop}
    (ends : Program.Leads before body done (On held)) : Program.Leads before (rollingBack body) done (On held) := by
  apply ends.handle
  intro error
  have undone : Program.Keeps (On held) (rollback : Script Contents Beside Left) := ends_rollback
  apply Program.Ends.bind
  · exact undone.handle fun _ => ⟨fun _ _ there => there⟩
  · exact fun _ => Program.ends_fail error

variable {changes : List (Contents -> Except String Contents)}

theorem ends_script_cons {between : World Contents Beside -> Prop}
    {done : PUnit.{w + 1} -> World Contents Beside -> Prop}
    (first : Program.Ends before (write change : Script.{u, v, w} Contents Beside Left) (fun _ => between) failed stopped)
    (rest : Program.Ends between (script changes : Script Contents Beside Left) done failed stopped) :
    Program.Ends before (script (change :: changes) : Script Contents Beside Left) done failed stopped :=
  first.bind fun _ => rest

/-- Outside of a transaction a script keeps what each of its changes keeps. -/
theorem ends_script_outside
    (keeps : forall change, change ∈ changes -> forall contents changed, held contents ->
      change contents = .ok changed -> held changed) :
    Program.Keeps (Outside held) (script changes : Script Contents Beside Left) := by
  apply Program.ends_each
  intro one member
  rcases List.mem_map.mp member with ⟨change, among, rfl⟩
  exact ends_write_outside (keeps change among)

theorem ends_script_inside (changes : List (Contents -> Except String Contents))
    (below : forall disk contents, inside disk contents -> held disk) :
    Program.Leads (Inside inside) (script changes : Script Contents Beside Left)
      (fun _ => Inside fun disk contents => Exists fun earlier => inside disk earlier ∧
        applyAll changes earlier = .ok contents) (On held) := by
  induction changes generalizing inside with
  | nil => exact ⟨fun _ _ ⟨contents, works, there⟩ => ⟨contents, works, contents, there, rfl⟩⟩
  | cons change rest ih =>
    have first : Program.Leads (Inside inside) (write change : Script Contents Beside Left)
        (fun _ => Inside fun disk changed => Exists fun contents => inside disk contents ∧
          change contents = .ok changed) (On held) :=
      ends_write_inside (fun _ contents _ there changed => ⟨contents, there, changed⟩) below
    apply first.bind
    intro _
    apply (ih fun disk _ there => below disk _ there.choose_spec.1).final
    rintro _ world ⟨contents, works, changed, ⟨earlier, there, once⟩, later⟩
    refine ⟨contents, works, earlier, there, ?_⟩
    rw [applyAll_cons, once]
    exact later

/-! ## Rules for statements that nothing disturbs -/

theorem reaches_statement (acts : forall world, before world ->
      Exists fun value => Exists fun next => act world = (.done value, next) ∧ done value next) :
    Program.Reaches before (statement act : Statements Contents Beside Left α) done := by
  intro world there
  rcases acts world there with ⟨value, next, acted, reached⟩
  refine ⟨value, next, ?_, reached⟩
  change ((act world).1, (act world).2, []) = _
  rw [acted]

theorem refuses_statement (acts : forall world, before world ->
      Exists fun error => Exists fun next => act world = (.failed error, next) ∧ failed next) :
    Program.Refuses before (statement act : Statements Contents Beside Left α) failed := by
  intro world there
  rcases acts world there with ⟨error, next, acted, reached⟩
  refine ⟨error, next, ?_, reached⟩
  change ((act world).1, (act world).2, []) = _
  rw [acted]

theorem reaches_read (looks : forall world, before world -> Exists fun value => look world.view = .ok value) :
    Program.Reaches before (read look : Statements Contents Beside Left α)
      (fun value world => before world ∧ look world.view = .ok value) := by
  apply reaches_statement
  intro world there
  rcases looks world there with ⟨value, looked⟩
  refine ⟨value, world, ?_, there, looked⟩
  rw [looked]

theorem reaches_script_outside
    (made : forall contents, held contents -> Exists fun changed => applyAll changes contents = .ok changed ∧ held' changed) :
    Program.Reaches (Outside held) (script changes : Script Contents Beside Left)
      (fun _ => Outside held') := by
  induction changes generalizing held with
  | nil =>
    rintro world ⟨quiet, there⟩
    rcases made _ there with ⟨changed, same, reached⟩
    cases same
    exact ⟨PUnit.unit, world, rfl, quiet, reached⟩
  | cons change rest ih =>
    have first : Program.Reaches (Outside held) (write change : Script Contents Beside Left)
        (fun _ => Outside fun changed => Exists fun final => applyAll rest changed = .ok final ∧ held' final) := by
      apply reaches_statement
      rintro world ⟨quiet, there⟩
      rcases made _ there with ⟨final, all, reached⟩
      rcases applyAll_cons_ok all with ⟨changed, once, later⟩
      refine ⟨PUnit.unit, { world with
        disk := changed }, ?_, quiet, final, later, reached⟩
      unfold World.view
      rw [quiet]
      dsimp only [Option.getD_none]
      rw [once]
    exact first.bind fun _ => ih fun _ there => there

theorem refuses_read
    (looks : forall world, before world -> Exists fun error => look world.view = .error error) :
    Program.Refuses before (read look : Statements Contents Beside Left α) before := by
  apply refuses_statement
  intro world there
  rcases looks world there with ⟨error, looked⟩
  refine ⟨error, world, ?_, there⟩
  rw [looked]

theorem reaches_begin :
    Program.Reaches (Outside held) (beginTransaction : Script Contents Beside Left)
      (fun _ => Inside fun disk contents => held disk ∧ contents = disk) := by
  apply reaches_statement
  rintro world ⟨quiet, there⟩
  refine ⟨PUnit.unit, { world with
    working := some world.disk }, ?_, world.disk, rfl, there, rfl⟩
  rw [quiet]

theorem reaches_write_inside (made : forall disk contents, inside disk contents ->
      Exists fun changed => change contents = .ok changed ∧ inside' disk changed) :
    Program.Reaches (Inside inside) (write change : Script Contents Beside Left)
      (fun _ => Inside inside') := by
  apply reaches_statement
  rintro world ⟨contents, works, there⟩
  rcases made _ _ there with ⟨changed, once, reached⟩
  refine ⟨PUnit.unit, { world with
    working := some changed }, ?_, changed, rfl, reached⟩
  unfold World.view
  rw [works]
  dsimp only [Option.getD_some]
  rw [once]

theorem refuses_write_inside
    (wrong : forall disk contents, inside disk contents -> Exists fun error => change contents = .error error) :
    Program.Refuses (Inside inside) (write change : Script Contents Beside Left) (Inside inside) := by
  apply refuses_statement
  rintro world ⟨contents, works, there⟩
  rcases wrong _ _ there with ⟨error, failed⟩
  refine ⟨error, world, ?_, contents, works, there⟩
  unfold World.view
  rw [works]
  dsimp only [Option.getD_some]
  rw [failed]

theorem reaches_script_inside (made : forall disk contents, inside disk contents ->
      Exists fun changed => applyAll changes contents = .ok changed ∧ inside' disk changed) :
    Program.Reaches (Inside inside) (script changes : Script Contents Beside Left)
      (fun _ => Inside inside') := by
  induction changes generalizing inside with
  | nil =>
    rintro world ⟨contents, works, there⟩
    rcases made _ _ there with ⟨changed, same, reached⟩
    cases same
    exact ⟨PUnit.unit, world, rfl, contents, works, reached⟩
  | cons change rest ih =>
    have first : Program.Reaches (Inside inside) (write change : Script Contents Beside Left)
        (fun _ => Inside fun disk changed =>
          Exists fun final => applyAll rest changed = .ok final ∧ inside' disk final) := by
      apply reaches_write_inside
      intro disk contents there
      rcases made _ _ there with ⟨final, all, reached⟩
      rcases applyAll_cons_ok all with ⟨changed, once, later⟩
      exact ⟨changed, once, final, later, reached⟩
    exact first.bind fun _ => ih fun _ _ there => there

theorem reaches_commit (commits : forall disk contents, inside disk contents -> held' contents) :
    Program.Reaches (Inside inside) (commit : Script Contents Beside Left)
      (fun _ => Outside held') := by
  apply reaches_statement
  rintro world ⟨contents, works, there⟩
  refine ⟨PUnit.unit, { world with
    disk := contents
    working := none }, ?_, rfl, commits _ _ there⟩
  rw [works]

/-- What a transaction did is dropped when a part of it fails. -/
theorem refuses_rollingBack {body : Script Contents Beside Left}
    (refuses : Program.Refuses before body (Inside inside))
    (below : forall disk contents, inside disk contents -> held disk) :
    Program.Refuses before (rollingBack body) (Outside held) := by
  apply refuses.handle
  intro error
  have undone : Program.Reaches (Inside inside) (rollback : Script Contents Beside Left)
      (fun _ => Outside held) := by
    apply reaches_statement
    rintro world ⟨contents, works, there⟩
    refine ⟨PUnit.unit, { world with
      working := none }, ?_, rfl, below _ _ there⟩
    rw [works]
  exact (undone.handle _).refuses fun _ => Program.refuses_fail _ error

end Rules

end Transactions
end TelegramDrive
