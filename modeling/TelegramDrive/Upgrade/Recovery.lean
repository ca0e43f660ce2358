import TelegramDrive.Upgrade.Undisturbed

namespace TelegramDrive
namespace Upgrade

open Disturbance Transactions

/-!
# Recovery from interrupted upgrades

Behind any interruptions an undisturbed start succeeds exactly in the places where the
tables of the folder metadata are there together, what later migrations made is recorded
or can be made, and the recovery copy is not there or is good.  In a database that the
app made, only the first and the last of these can fail.
-/

/-- A place where an undisturbed start succeeds. -/
structure Startable (build : Build) (place : Place) : Prop where
  settled : Settled place.disk
  ownable : Ownable place.disk
  copy : place.disk.has .appSchemaMigrations = false -> place.disk.tables ≠ [] ->
    place.beside = .absent ∨ validateBackup build place.beside = .ok ()

/-- A recovery copy that is due can be made, or is good. -/
def Copyable (build : Build) (place : Place) : Prop :=
  place.disk.has .appSchemaMigrations = false -> place.disk.tables ≠ [] ->
    place.beside = .absent ∨ validateBackup build place.beside = .ok ()

/-- An undisturbed start succeeds, with the present layout, all records, and every row. -/
def Recovers (build : Build) (clock : Int -> Int) (place : Place) : Prop :=
  Exists fun final => start build ⟨clock, []⟩ place = (.done (), final) ∧
    inspectSchema build.digest final.disk = .ok .current ∧
    (forall migration, migration ∈ migrations ->
      final.disk.record migration.version = some (migration.mark build.digest)) ∧
    place.disk.Keeps final.disk

section Steps

variable {build : Build}

theorem inspect_empty {digest : String -> String} {database : Database}
    (empty : inspectSchema digest database = .ok .empty) : database.tables = [] := by
  unfold inspectSchema at empty
  dsimp only at empty
  rw [then_ok] at empty
  have last := empty.2
  split at last
  next nothing => exact nothing
  · have ledger := (inspectTables_ok.mp last).2
    split at ledger
    · cases (inspectLedger_fine.mp ledger).2
    · unfold unmanagedLayout at ledger
      split at ledger <;> cases ledger

variable {layout : SchemaLayout}

theorem inspect_of_empty {digest : String -> String} {database : Database}
    (inspected : inspectSchema digest database = .ok layout) (nothing : database.tables = []) : layout = .empty := by
  unfold inspectSchema at inspected
  dsimp only at inspected
  rw [then_ok, if_pos nothing] at inspected
  exact (Except.ok.inj inspected.2).symm

variable {place : Place}

theorem view_quiet (quiet : place.working = none) : place.view = place.disk := by
  unfold World.view
  rw [quiet]
  rfl

theorem reaches_touch (before : Place -> Prop) : Program.Reaches before touch (fun _ => before) :=
  reaches_statement fun world there => ⟨(), world, rfl, there⟩

theorem reaches_openDatabase (before : Place -> Prop) : Program.Reaches before openDatabase (fun _ => before) :=
  (((reaches_touch before).attempts 4 "").handle _).bind fun _ => (reaches_touch before).handle _

theorem reaches_retry {α : Type} {before : Place -> Prop} {after : α -> Place -> Prop} {program : Sql α}
    (reaches : Program.Reaches before program after) (stepName : String) :
    Program.Reaches before (retryInitializationStep stepName program) after :=
  (reaches.attempts 4 "").handle _

theorem reaches_retryMigration {before : Place -> Prop} {after : Unit -> Place -> Prop} {program : Sql Unit}
    (reaches : Program.Reaches before program after) (backup : Bool) (stepName : String) :
    Program.Reaches before (retryMigration backup stepName program) after :=
  (reaches.attempts 4 "").handle _

theorem refuses_retry {α : Type} {kept : Place -> Prop} {program : Sql α} (refuses : Program.Refuses kept program kept)
    (stepName : String) : Program.Refuses kept (retryInitializationStep stepName program) kept :=
  (refuses.attempts maxDbInitRetries "").handle fun _ => Program.refuses_fail _ _

theorem reaches_checkBackup {before : Place -> Prop}
    (good : forall world, before world -> validateBackup build world.beside = .ok ()) :
    Program.Reaches before (checkBackup build) (fun _ => before) := by
  apply reaches_statement
  intro world there
  refine ⟨true, world, ?_, there⟩
  rw [good world there]

theorem reaches_backupExists (place : Place) :
    Program.Reaches (fun world => world = place) backupExists
      (fun already world => world = place ∧ already = decide (place.beside ≠ .absent)) := by
  apply reaches_statement
  rintro world rfl
  exact ⟨_, world, rfl, rfl, rfl⟩

theorem reaches_makeBackup (quiet : place.working = none)
    (inspected : inspectSchema build.digest place.disk = .ok layout)
    (fine : place.beside = .absent ∨ validateBackup build place.beside = .ok ()) :
    Program.Reaches (fun world => world = place) (makeBackup build)
      (fun _ world => world.disk = place.disk ∧ world.working = none) := by
  have copies : Program.Reaches (fun world => world = place) vacuumInto
      (fun _ world => world = { place with
        beside := .copy place.view }) := by
    rintro world rfl
    exact ⟨(), _, rfl, rfl⟩
  apply (reaches_backupExists place).bind
  intro already
  cases already with
  | true =>
    have checks : Program.Reaches (fun world => world = place ∧ true = decide (place.beside ≠ .absent))
        (checkBackup build) (fun _ world => world = place ∧ true = decide (place.beside ≠ .absent)) := by
      apply reaches_checkBackup
      rintro world ⟨rfl, present⟩
      exact fine.resolve_left (of_decide_eq_true present.symm)
    apply checks.final
    rintro _ world ⟨rfl, _⟩
    exact ⟨rfl, quiet⟩
  | false =>
    have checks : Program.Reaches (fun world => world = { place with
        beside := .copy place.view }) (checkBackup build) (fun _ world => world = { place with
        beside := .copy place.view }) := by
      apply reaches_checkBackup
      rintro world rfl
      unfold validateBackup World.view
      rw [quiet]
      dsimp only [Option.getD_none]
      rw [inspected]
    have whole := (copies.bind fun _ => (reaches_touch _).bind fun _ => checks).consequence
      (fun (world : Place) (there : world = place ∧ false = decide (place.beside ≠ .absent)) => there.1)
      (fun _ world there => (⟨there ▸ rfl, there ▸ quiet⟩ : world.disk = place.disk ∧ world.working = none))
    exact whole

theorem reaches_managed (quiet : place.working = none) :
    Program.Reaches (fun world => world = place)
      (read fun database => .ok (database.has .appSchemaMigrations) : Sql Bool)
      (fun managed world => world = place ∧ managed = place.disk.has .appSchemaMigrations) := by
  apply (reaches_read fun world _ => ⟨world.view.has .appSchemaMigrations, rfl⟩).final
  rintro managed world ⟨rfl, looked⟩
  unfold World.view at looked
  rw [quiet] at looked
  exact ⟨rfl, (Except.ok.inj looked).symm⟩

theorem reaches_prepareBaselineBackup (quiet : place.working = none)
    (inspected : inspectSchema build.digest place.disk = .ok layout)
    (fine : Copyable build place) :
    Program.Reaches (fun world => world = place) (prepareBaselineBackup build layout)
      (fun _ world => world.disk = place.disk ∧ world.working = none) := by
  unfold prepareBaselineBackup
  split
  · rintro world rfl
    exact ⟨false, world, rfl, rfl, quiet⟩
  next filled =>
    apply (reaches_managed quiet).bind
    intro managed
    cases managed with
    | true =>
      rintro world ⟨rfl, _⟩
      exact ⟨false, world, rfl, rfl, quiet⟩
    | false =>
      rintro world ⟨rfl, absent⟩
      have tables : world.disk.tables ≠ [] := fun nothing => filled (inspect_of_empty inspected nothing)
      exact reaches_makeBackup quiet inspected (fine absent.symm tables) world rfl

theorem refuses_makeBackup (present : place.beside ≠ .absent)
    (bad : validateBackup build place.beside ≠ .ok ()) :
    Program.Refuses (fun world => world = place) (makeBackup build) (fun world => world = place) := by
  apply (reaches_backupExists place).refuses
  intro already
  cases already with
  | true =>
    apply refuses_statement
    rintro world ⟨rfl, _⟩
    cases checked : validateBackup build world.beside with
    | ok value => exact (bad checked).elim
    | error error => exact ⟨error, world, rfl, rfl⟩
  | false =>
    rintro world ⟨_, missing⟩
    exact (of_decide_eq_false missing.symm present).elim

theorem refuses_prepareBaselineBackup (quiet : place.working = none)
    (inspected : inspectSchema build.digest place.disk = .ok layout)
    (absent : place.disk.has .appSchemaMigrations = false) (filled : place.disk.tables ≠ [])
    (present : place.beside ≠ .absent) (bad : validateBackup build place.beside ≠ .ok ()) :
    Program.Refuses (fun world => world = place) (prepareBaselineBackup build layout) (fun world => world = place) := by
  have layouts : layout ≠ .empty := by
    rintro rfl
    exact filled (inspect_empty inspected)
  unfold prepareBaselineBackup
  rw [if_neg layouts]
  apply (reaches_managed quiet).refuses
  intro managed
  cases managed with
  | true =>
    rintro world ⟨rfl, there⟩
    rw [absent] at there
    cases there
  | false =>
    rintro world ⟨rfl, _⟩
    exact refuses_makeBackup present bad world rfl

/-! ## The whole start -/

section Start

variable {held : Database -> Prop} (early : Early build held) {place : Place} {layout : SchemaLayout}
  (quiet : place.working = none) (inspected : inspectSchema build.digest place.disk = .ok layout)

theorem reaches_inspect {α : Type} (look : Database -> Except String α) {value : α}
    (looked : look place.view = .ok value) :
    Program.Reaches (fun world => world = place) (read look : Sql α) (fun found world => world = place ∧ found = value) := by
  apply (reaches_read fun world same => ⟨value, same ▸ looked⟩).final
  rintro found world ⟨rfl, again⟩
  rw [looked] at again
  exact ⟨rfl, (Except.ok.inj again).symm⟩

include early quiet inspected

/-- An undisturbed start comes to the column of the owner. -/
theorem initDbAt_behind (clock : Int -> Int) (kept : held place.disk)
    (copy : Copyable build place) :
    Exists fun world => Outside (Migrated build held) world ∧ initDbAt build clock place [] =
      retryInitializationStep "share ownership migration" (installShareOwnership build (clock 4)) world [] := by
  have view := view_quiet quiet
  have accepted := inspectSchema_iff.mp ⟨layout, inspected⟩
  rcases reaches_openDatabase (fun world => world = place) place rfl with ⟨_, _, opened, rfl⟩
  rcases reaches_retry (reaches_inspect (inspectSchema build.digest) (view ▸ inspected)) "database preflight" _ rfl with
    ⟨_, _, preflight, rfl, rfl⟩
  rcases reaches_retry (reaches_prepareBaselineBackup quiet inspected copy) "database backup preparation" _ rfl with
    ⟨backup, prepared, copied, disk, still⟩
  have start : Outside (fun disk => Kept build held disk ∧ Settled disk) prepared := by
    refine ⟨still, ?_⟩
    rw [disk]
    exact ⟨⟨accepted.1, kept⟩, accepted.2⟩
  rcases reaches_retry (reaches_touch _) "database WAL configuration" _ start with ⟨_, _, configured, start⟩
  rcases reaches_retryMigration (reaches_baseTables early) backup "run SQLite migration" _ start with
    ⟨_, based, first, there⟩
  rcases reaches_retryMigration (reaches_runEncryptionMigration early (clock 0)) backup "run encryption migration" _
    there with ⟨_, registered, second, there⟩
  rcases reaches_retryMigration (reaches_installBaseline early (clock 1)) backup
    "install database migration baseline" _ there with ⟨_, managed, third, there⟩
  rcases reaches_retry (reaches_sync early (clock 2)) "folder sync migration" _ there with ⟨_, synced, fourth, there⟩
  rcases reaches_retry (reaches_inventory early (clock 3)) "file inventory migration" _ there with
    ⟨_, world, fifth, there⟩
  refine ⟨world, there, ?_⟩
  unfold initDbAt
  rw [Program.bind_done opened, Program.bind_done preflight, Program.bind_done copied, Program.bind_done configured,
    Program.bind_done first, Program.bind_done second, Program.bind_done third, Program.bind_done fourth,
    Program.bind_done fifth]

end Start

theorem Stable.and {one two : Database -> Prop} (first : Stable build one) (second : Stable build two) :
    Stable build fun database => one database ∧ two database where
  toEarly := first.toEarly.and second.toEarly
  owner := fun _ _ grows recorded owned both =>
    ⟨first.owner _ _ grows recorded owned both.1, second.owner _ _ grows recorded owned both.2⟩

theorem ownable_stable : Stable build Ownable where
  toEarly := ownable_early
  owner := by
    intro _ later _ recorded owned _
    refine ⟨fun _ => recorded, fun missing => ?_⟩
    rw [owned] at missing
    cases missing

theorem recovers_of_startable (quiet : place.working = none) (sane : Sane build.digest place.disk)
    (startable : Startable build place) (clock : Int -> Int) : Recovers build clock place := by
  rcases inspectSchema_iff.mpr ⟨sane, startable.settled⟩ with ⟨layout, inspected⟩
  have stable : Stable build fun disk => place.disk.Keeps disk ∧ Ownable disk :=
    (keeps_stable place.disk).and ownable_stable
  have begins : place.disk.Keeps place.disk ∧ Ownable place.disk := ⟨Database.Keeps.refl _, startable.ownable⟩
  rcases initDbAt_behind stable.toEarly quiet inspected clock begins startable.copy with ⟨world, there, behind⟩
  have ready : Outside (fun disk => Migrated build (fun disk => place.disk.Keeps disk ∧ Ownable disk) disk ∧
      Ownable disk) world := ⟨there.1, there.2, there.2.kept.1.2.2⟩
  rcases reaches_retry (reaches_installShareOwnership stable (clock 4)) "share ownership migration" world ready with
    ⟨_, final, done, still, migrated, owner⟩
  have all := hasAll_iff.mp migrated.kept.2
  have sane := migrated.kept.1.1
  refine ⟨{ final with
    working := none }, ?_, ?_, ?_, migrated.kept.1.2.1⟩
  · unfold start
    dsimp only
    rw [behind, done]
  · apply inspectSchema_current sane _ (all _ (by decide)) _ (all _ (by decide))
    · exact {
        pair := (all .groups (by decide)).trans (all .folderMetadata (by decide)).symm
        sync := fun _ _ => migrated.sync
        inventory := fun _ _ => migrated.inventory
        owner := fun _ _ => owner }
    · exact hasAll_iff.mpr fun name member => all name (List.mem_append_left _ member)
  · intro migration member
    apply (sane.marks migration member).resolve_left
    simp only [migrations, List.mem_cons, List.not_mem_nil, or_false] at member
    rcases member with rfl | rfl | rfl | rfl
    · exact (sane.managed migrated.ledger).2.2.2.2
    · exact migrated.sync
    · exact migrated.inventory
    · exact owner

theorem not_done_of_refuses {clock : Int -> Int} {after : Place -> Prop}
    (refuses : Program.Refuses (fun world => world = place) (initDbAt build clock) after) :
    (start build ⟨clock, []⟩ place).1 ≠ .done () := by
  rcases refuses place rfl with ⟨error, next, failed, _⟩
  unfold start
  dsimp only
  rw [failed]
  exact fun done => by cases done

/-- What an undisturbed start is done with was accepted by the preflight. -/
theorem settled_of_done (quiet : place.working = none) {clock : Int -> Int}
    (done : (start build ⟨clock, []⟩ place).1 = .done ()) : Settled place.disk := by
  cases inspected : inspectSchema build.digest place.disk with
  | ok layout => exact (inspectSchema_iff.mp ⟨layout, inspected⟩).2
  | error error =>
    have preflight : Program.Refuses (fun world => world = place)
        (read (inspectSchema build.digest) : Sql SchemaLayout) (fun world => world = place) :=
      refuses_read fun world same => ⟨error, by rw [same, view_quiet quiet, inspected]⟩
    exact (not_done_of_refuses ((reaches_openDatabase _).refuses fun _ =>
      (refuses_retry preflight "database preflight").bind _) done).elim

theorem copy_of_done (quiet : place.working = none) (sane : Sane build.digest place.disk)
    {clock : Int -> Int} (done : (start build ⟨clock, []⟩ place).1 = .done ()) : Copyable build place := by
  intro absent filled
  by_contra neither
  rw [not_or] at neither
  rcases inspectSchema_iff.mpr ⟨sane, settled_of_done quiet done⟩ with ⟨layout, inspected⟩
  have preflight := reaches_retry (reaches_inspect (inspectSchema build.digest) ((view_quiet quiet).symm ▸ inspected))
    "database preflight"
  have prepares := refuses_retry (refuses_prepareBaselineBackup quiet inspected absent filled neither.1 neither.2)
    "database backup preparation"
  have refused : Program.Refuses (fun world => world = place) (initDbAt build clock) (fun world => world = place) := by
    refine (reaches_openDatabase _).refuses fun _ => preflight.refuses fun found => ?_
    rintro world ⟨here, rfl⟩
    exact prepares.bind _ world here
  exact not_done_of_refuses refused done

/-- From any other sane place the start fails. -/
theorem startable_of_done (quiet : place.working = none) (sane : Sane build.digest place.disk)
    {clock : Int -> Int} (done : (start build ⟨clock, []⟩ place).1 = .done ()) : Startable build place where
  settled := settled_of_done quiet done
  copy := copy_of_done quiet sane done
  ownable := by
    by_contra stuck
    rcases inspectSchema_iff.mpr ⟨sane, settled_of_done quiet done⟩ with ⟨layout, inspected⟩
    rcases initDbAt_behind not_ownable_early quiet inspected clock stuck (copy_of_done quiet sane done) with
      ⟨world, there, behind⟩
    rcases refuses_retry (refuses_installShareOwnership (clock 4)) "share ownership migration" world
      ⟨there.1, there.2, there.2.kept.1.2⟩ with ⟨error, next, failed, _⟩
    unfold start at done
    dsimp only at done
    rw [behind, failed] at done
    cases done

/-- A database as the app makes it: what a later migration brings has its record. -/
structure Tidy (database : Database) : Prop where
  sync : hasAll database syncTables = true -> database.record syncMigration.version ≠ none
  inventory : hasAll database inventoryTables = true -> database.record fileInventoryMigration.version ≠ none
  ownable : Ownable database

theorem tidy_grows {scope : Scope} {database later : Database} (grows : Grows build.digest scope database later)
    (sync : (forall name, name ∈ syncTables -> name ∉ scope.tables) ∨ later.record syncMigration.version ≠ none)
    (inventory : (forall name, name ∈ inventoryTables -> name ∉ scope.tables) ∨
      later.record fileInventoryMigration.version ≠ none)
    (ownable : Ownable database -> Ownable later) (tidy : Tidy database) : Tidy later where
  sync := by
    intro all
    rcases sync with apart | recorded
    · exact grows.recorded _ (tidy.sync (back_hasAll grows apart all))
    · exact recorded
  inventory := by
    intro all
    rcases inventory with apart | recorded
    · exact grows.recorded _ (tidy.inventory (back_hasAll grows apart all))
    · exact recorded
  ownable := ownable tidy.ownable

/-- Every start leaves a database as the app makes it. -/
theorem tidy_stable : Stable build Tidy where
  base := fun _ _ grows => tidy_grows grows (Or.inl (by decide)) (Or.inl (by decide)) (ownable_grows grows rfl)
  registry := fun _ _ grows => tidy_grows grows (Or.inl (by decide)) (Or.inl (by decide)) (ownable_grows grows rfl)
  baseline := fun _ _ grows => tidy_grows grows (Or.inl (by decide)) (Or.inl (by decide)) (ownable_grows grows rfl)
  sync := fun _ _ grows recorded =>
    tidy_grows grows (Or.inr recorded) (Or.inl (by decide)) (ownable_grows grows rfl)
  inventory := fun _ _ grows recorded =>
    tidy_grows grows (Or.inl (by decide)) (Or.inr recorded) (ownable_grows grows rfl)
  owner := fun _ _ grows recorded owned => tidy_grows grows (Or.inl (by decide)) (Or.inl (by decide))
    (ownable_stable.owner _ _ grows recorded owned)

theorem tidy_startable (tidy : Tidy place.disk) : Startable build place ↔
    place.disk.has .groups = place.disk.has .folderMetadata ∧ Copyable build place := by
  constructor
  · exact fun startable => ⟨startable.settled.pair, startable.copy⟩
  · rintro ⟨pair, copy⟩
    exact {
      settled := ⟨pair, fun _ => tidy.sync, fun _ => tidy.inventory, fun _ => tidy.ownable.recorded⟩
      ownable := tidy.ownable
      copy := copy }

/-- Wherever starts are interrupted, no row is lost, and an undisturbed start recovers exactly from
a startable place.  In a database as the app makes it that is where the folder metadata is whole and
the copy is not there or good. -/
theorem interrupted_upgrade_recovers (build : Build) (database : Database) (layout : SchemaLayout)
    (recognised : inspectSchema build.digest database = .ok layout) (copy : File) (attempts : List Attempt)
    (left : Place) (run : (machine build).Run Machine.anything ⟨database, none, copy⟩ attempts left) :
    database.Keeps left.disk ∧ (forall attempt, left.disk.Keeps (start build attempt left).2.disk) ∧
      (forall clock, Recovers build clock left ↔ Startable build left) ∧
        (Tidy database -> (Startable build left ↔ left.disk.has .groups = left.disk.has .folderMetadata ∧
          (left.disk.has .appSchemaMigrations = false -> left.disk.tables ≠ [] ->
            left.beside = .absent ∨ validateBackup build left.beside = .ok ()))) := by
  have accepted := inspectSchema_iff.mp ⟨layout, recognised⟩
  have kept := run_keeps (keeps_stable database) run ⟨rfl, accepted.1, Database.Keeps.refl database⟩
  refine ⟨kept.2.2, fun attempt => ?_, fun clock => ⟨?_, ?_⟩, fun tidy => ?_⟩
  · have once : (machine build).Run Machine.anything left [attempt] (start build attempt left).2 :=
      .take trivial rfl (.stop _)
    exact (run_keeps (keeps_stable left.disk) once ⟨kept.1, kept.2.1, Database.Keeps.refl _⟩).2.2
  · rintro ⟨final, done, _⟩
    exact startable_of_done kept.1 kept.2.1 (congrArg Prod.fst done)
  · exact fun startable => recovers_of_startable kept.1 kept.2.1 startable clock
  · exact tidy_startable (run_keeps tidy_stable run ⟨rfl, accepted.1, tidy⟩).2.2

end Steps

/-! ## A first start that is stopped -/

/-- A build whose checksums are the definitions. -/
def plainBuild : Build := ⟨fun definition => definition, "1"⟩

/-- Where nothing was started before. -/
def freshPlace : Place := ⟨⟨[], []⟩, none, .absent⟩

/-- A start that is stopped behind so many steps. -/
def stoppedBehind (steps : Nat) : Attempt := ⟨fun _ => 0, List.replicate steps none ++ [some (.stops .absent)]⟩

theorem interrupted_upgrade_recovers_here :
    inspectSchema plainBuild.digest freshPlace.disk = .ok .empty ∧
      freshPlace.disk.Keeps (start plainBuild (stoppedBehind 5) freshPlace).2.disk ∧
        (Recovers plainBuild (fun _ => 0) (start plainBuild (stoppedBehind 5) freshPlace).2 ↔
          Startable plainBuild (start plainBuild (stoppedBehind 5) freshPlace).2) := by
  have recognised : inspectSchema plainBuild.digest freshPlace.disk = .ok .empty := by decide +kernel
  have held := interrupted_upgrade_recovers plainBuild freshPlace.disk .empty recognised .absent [stoppedBehind 5]
    (start plainBuild (stoppedBehind 5) freshPlace).2 (.take trivial rfl (.stop _))
  exact ⟨recognised, held.1, held.2.2.1 _⟩

/-- Stopped between the two tables of the folder metadata, a first start locks the user out. -/
theorem first_start_locks_out : ¬ forall attempts left,
    (machine plainBuild).Run Machine.anything freshPlace attempts left -> Recovers plainBuild (fun _ => 0) left := by
  intro claimed
  rcases claimed [stoppedBehind 6] _ (.take trivial rfl (.stop _)) with ⟨final, done, _⟩
  have refused : (start plainBuild ⟨fun _ => 0, []⟩ (start plainBuild (stoppedBehind 6) freshPlace).2).1 ≠ .done () := by
    decide +kernel
  exact refused (congrArg Prod.fst done)

end Upgrade
end TelegramDrive
