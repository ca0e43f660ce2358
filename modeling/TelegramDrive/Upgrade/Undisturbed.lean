import TelegramDrive.Upgrade.Interrupted

namespace TelegramDrive
namespace Upgrade

open Disturbance Transactions

/-!
# Starts that nothing disturbs

An undisturbed start succeeds on a database that the preflight accepts, when its recovery
copy can be made or is good, and the column of the owner is there with its record or can
be added with its index.  On any other sane database it fails.
-/

/-- The column of the owner is recorded, or it can be added. -/
structure Ownable (database : Database) : Prop where
  recorded : hasShareOwner database = true -> database.record shareOwnerMigration.version ≠ none
  index : hasShareOwner database = false -> .sharedLinksOwner ∉ database.indexes

section Ownership

variable {build : Build} {scope : Scope} {database later : Database}

theorem ownable_grows (grows : Grows build.digest scope database later) (unowned : scope.owner = false) :
    Ownable database -> Ownable later := by
  intro ownable
  constructor
  · intro owned
    rw [grows.owner unowned] at owned
    exact grows.recorded _ (ownable.recorded owned)
  · intro missing there
    rw [grows.owner unowned] at missing
    exact ownable.index missing ((grows.ownerIndex unowned).mp there)

theorem not_ownable_grows (grows : Grows build.digest scope database later) (unowned : scope.owner = false)
    (outside : shareOwnerMigration.version ∉ scope.versions) : ¬ Ownable database -> ¬ Ownable later := by
  intro stuck ownable
  apply stuck
  constructor
  · intro owned
    rw [← grows.owner unowned] at owned
    rw [← grows.records _ outside]
    exact ownable.recorded owned
  · intro missing there
    rw [← grows.owner unowned] at missing
    exact ownable.index missing ((grows.ownerIndex unowned).mpr there)

theorem keeps_stable (database : Database) : Stable build database.Keeps where
  base := fun _ _ grows keeps => keeps.trans grows.keeps
  registry := fun _ _ grows keeps => keeps.trans grows.keeps
  baseline := fun _ _ grows keeps => keeps.trans grows.keeps
  sync := fun _ _ grows _ keeps => keeps.trans grows.keeps
  inventory := fun _ _ grows _ keeps => keeps.trans grows.keeps
  owner := fun _ _ grows _ _ keeps => keeps.trans grows.keeps

theorem Early.and {one two : Database -> Prop} (first : Early build one) (second : Early build two) :
    Early build fun database => one database ∧ two database where
  base := fun _ _ grows both => ⟨first.base _ _ grows both.1, second.base _ _ grows both.2⟩
  registry := fun _ _ grows both => ⟨first.registry _ _ grows both.1, second.registry _ _ grows both.2⟩
  baseline := fun _ _ grows both => ⟨first.baseline _ _ grows both.1, second.baseline _ _ grows both.2⟩
  sync := fun _ _ grows made both => ⟨first.sync _ _ grows made both.1, second.sync _ _ grows made both.2⟩
  inventory := fun _ _ grows made both =>
    ⟨first.inventory _ _ grows made both.1, second.inventory _ _ grows made both.2⟩

theorem ownable_early : Early build Ownable where
  base := fun _ _ grows => ownable_grows grows rfl
  registry := fun _ _ grows => ownable_grows grows rfl
  baseline := fun _ _ grows => ownable_grows grows rfl
  sync := fun _ _ grows _ => ownable_grows grows rfl
  inventory := fun _ _ grows _ => ownable_grows grows rfl

theorem not_ownable_early : Early build fun database => ¬ Ownable database where
  base := fun _ _ grows => not_ownable_grows grows rfl List.not_mem_nil
  registry := fun _ _ grows => not_ownable_grows grows rfl List.not_mem_nil
  baseline := fun _ _ grows => not_ownable_grows grows rfl (by decide)
  sync := fun _ _ grows _ => not_ownable_grows grows rfl (by decide)
  inventory := fun _ _ grows _ => not_ownable_grows grows rfl (by decide)

end Ownership

/-! ## Statements that succeed -/

section Success

/-- A statement succeeds wherever these tables are there, and they stay. -/
def Runs (needed : List TableName) (change : Database -> Except String Database) : Prop :=
  forall database, hasAll database needed = true -> Exists fun later => change database = .ok later

theorem createIfAbsent_runs (needed : List TableName) (name : TableName) (columns : List String) :
    Runs needed (Database.createIfAbsent name columns) := fun _ _ => ⟨_, rfl⟩

theorem createIndexIfAbsent_runs {needed : List TableName} {index : IndexName} {name : TableName}
    (member : name ∈ needed) : Runs needed (Database.createIndexIfAbsent index name) := by
  intro database all
  unfold Database.createIndexIfAbsent
  split
  · exact ⟨_, rfl⟩
  next absent =>
    unfold Database.createIndex
    rw [if_neg absent, if_pos (hasAll_iff.mp all name member)]
    exact ⟨_, rfl⟩

theorem insertOrIgnore_runs {needed : List TableName} {name : TableName} (member : name ∈ needed) (key : String)
    (row : Row) : Runs needed (Database.insertOrIgnore name key row) := by
  intro database all
  unfold Database.insertOrIgnore
  rw [if_pos (hasAll_iff.mp all name member)]
  exact ⟨_, rfl⟩

variable {digest : String -> String} {scope : Scope}

theorem applyAll_cons_exists {change : Database -> Except String Database}
    {rest : List (Database -> Except String Database)} {database middle : Database} (once : change database = .ok middle)
    (more : Exists fun later => applyAll rest middle = .ok later) :
    Exists fun later => applyAll (change :: rest) database = .ok later := by
  rw [applyAll_cons, once]
  exact more

theorem createIndex_runs {index : IndexName} {name : TableName} {database : Database}
    (free : index ∉ database.indexes) (there : database.has name = true) :
    Database.createIndex index name database = .ok { database with
      indexes := database.indexes ++ [index] } := by
  unfold Database.createIndex
  rw [if_neg free, if_pos there]

theorem insert_record_runs (build : Build) {migration : Migration} (now : Int) {database : Database}
    (there : database.has .appSchemaMigrations = true) (missing : database.record migration.version = none) :
    Database.insert .appSchemaMigrations "version" (ledgerRow build migration now) database =
      .ok (database.update .appSchemaMigrations (Table.insert (ledgerRow build migration now))) := by
  unfold Database.insert
  rw [if_pos there, clashes_ledger, missing]
  rfl

/-- A script runs whose statements run when the tables before it are there. -/
theorem applyAll_runs {needed : List TableName} {changes : List (Database -> Except String Database)}
    (each : forall change, change ∈ changes -> Within digest scope change)
    (runs : forall change, change ∈ changes -> Runs needed change) {database : Database}
    (all : hasAll database needed = true) : Exists fun later => applyAll changes database = .ok later := by
  induction changes generalizing database with
  | nil => exact ⟨database, rfl⟩
  | cons change rest ih =>
    rcases runs change List.mem_cons_self database all with ⟨middle, once⟩
    have grows := each change List.mem_cons_self database middle once
    rcases ih (fun other member => each other (List.mem_cons_of_mem _ member))
      (fun other member => runs other (List.mem_cons_of_mem _ member)) (hasAll_grows grows all) with ⟨later, more⟩
    exact applyAll_cons_exists once ⟨later, more⟩

theorem applyAll_tables_run {needed : List TableName} (tables : List (TableName × List String))
    {rest : List (Database -> Except String Database)}
    (within : forall change, change ∈ tables.map (Database.createIfAbsent.uncurry) ++ rest -> Within digest scope change)
    (runs : forall change, change ∈ rest -> Runs (tables.map Prod.fst ++ needed) change) {database : Database}
    (all : hasAll database needed = true) :
    Exists fun later => applyAll (tables.map (Database.createIfAbsent.uncurry) ++ rest) database = .ok later := by
  induction tables generalizing needed database with
  | nil => exact applyAll_runs within runs all
  | cons table tables ih =>
    rcases createIfAbsent_runs needed table.1 table.2 database all with ⟨middle, once⟩
    have grows := within _ List.mem_cons_self database middle once
    have there := createIfAbsent_makes table.1 table.2 database middle once
    refine applyAll_cons_exists once (ih (fun change member => within change (List.mem_cons_of_mem _ member)) ?_
      (hasAll_iff.mpr (List.forall_mem_cons.mpr ⟨there, hasAll_iff.mp (hasAll_grows grows all)⟩)))
    intro change member database all
    apply runs change member database
    rw [hasAll_iff] at all ⊢
    intro name among
    exact all name (by simpa [or_left_comm] using among)

/-! ## The scripts -/

section Scripts

variable (build : Build) (now : Int) {database : Database}

include build in
theorem baseTables_run : Exists fun later => applyAll baseTables database = .ok later := by
  apply @applyAll_tables_run _ _ [] [(.sharedLinks, sharedLinkColumns), (.groups, groupColumns),
    (.folderMetadata, folderMetadataColumns), (.fileActivity, fileActivityColumns)] _ (baseTables_within build) _ _ rfl
  intro change member
  simp only [List.mem_cons, List.not_mem_nil, or_false] at member
  rcases member with rfl | rfl | rfl <;> exact createIndexIfAbsent_runs (by decide)

include build in
theorem registryTables_run : Exists fun later => applyAll registryTables database = .ok later := by
  have start : hasAll database [] = true := rfl
  apply applyAll_runs (registryTables_within build) _ start
  intro change member
  simp only [registryTables, List.mem_cons, List.not_mem_nil, or_false] at member
  rcases member with rfl | rfl | rfl <;> exact createIfAbsent_runs _ _ _

theorem syncChanges_run (ledger : database.has .appSchemaMigrations = true) :
    Exists fun later => applyAll (syncChanges build now) database = .ok later := by
  apply @applyAll_tables_run _ _ [.appSchemaMigrations] [(.syncSettings, syncSettingColumns),
    (.syncPairs, syncPairColumns), (.syncState, syncStateColumns), (.syncLog, syncLogColumns)] _
    (syncChanges_within build now) _ _ (by simpa [hasAll] using ledger)
  intro change member
  simp only [List.mem_cons, List.not_mem_nil, or_false] at member
  rcases member with rfl | rfl | rfl | rfl | rfl | rfl
  · exact createIndexIfAbsent_runs (by decide)
  · exact createIndexIfAbsent_runs (by decide)
  · exact insertOrIgnore_runs (by decide) _ _
  · exact insertOrIgnore_runs (by decide) _ _
  · exact insertOrIgnore_runs (by decide) _ _
  · exact insertOrIgnore_runs (by decide) _ _

theorem inventoryChanges_run (ledger : database.has .appSchemaMigrations = true) :
    Exists fun later => applyAll (inventoryChanges build now) database = .ok later := by
  apply @applyAll_tables_run _ _ [.appSchemaMigrations] [(.fileInventory, fileInventoryColumns)] _
    (inventoryChanges_within build now) _ _ (by simpa [hasAll] using ledger)
  intro change member
  simp only [List.mem_cons, List.not_mem_nil, or_false] at member
  rcases member with rfl | rfl | rfl
  · exact createIndexIfAbsent_runs (by decide)
  · exact createIfAbsent_runs _ _ _
  · exact insertOrIgnore_runs (by decide) _ _

theorem baselineChanges_run (absent : database.has .appSchemaMigrations = false) :
    Exists fun later => applyAll (baselineChanges build now) database = .ok later := by
  have created : Database.create .appSchemaMigrations migrationLedgerColumns database =
      .ok (database.add .appSchemaMigrations migrationLedgerColumns) := by
    unfold Database.create
    rw [if_neg (Bool.eq_false_iff.mp absent)]
  have there := create_makes _ _ database _ created
  have quiet : (database.add .appSchemaMigrations migrationLedgerColumns).record baseline.version = none := by
    rw [Database.record_congr (Database.rows_add absent _ _)]
    exact record_absent absent _
  apply applyAll_cons_exists created
  refine applyAll_cons_exists (insert_record_runs build now there quiet) ⟨_, rfl⟩

theorem ownershipChanges_run (shared : database.has .sharedLinks = true) (ledger : database.has .appSchemaMigrations = true)
    (missing : hasShareOwner database = false) (free : .sharedLinksOwner ∉ database.indexes)
    (unrecorded : database.record shareOwnerMigration.version = none) :
    Exists fun later => applyAll (ownershipChanges build now) database = .ok later := by
  have fresh : "owner_id" ∉ database.columns .sharedLinks := of_decide_eq_false missing
  have added : Database.addColumn .sharedLinks "owner_id" .null database =
      .ok (database.update .sharedLinks (Table.addColumn "owner_id" .null)) := by
    unfold Database.addColumn
    rw [if_pos shared, if_neg fresh]
  have indexed := @createIndex_runs _ _ (database.update .sharedLinks (Table.addColumn "owner_id" .null)) free
    ((Database.has_update _ _).trans shared)
  apply applyAll_cons_exists added
  apply applyAll_cons_exists indexed
  refine applyAll_cons_exists (insert_record_runs build now ?_ ?_) ⟨_, rfl⟩
  · exact (Database.has_update _ _).trans ledger
  · have same := @Database.rows_addColumn database .sharedLinks "owner_id" .null .appSchemaMigrations
      TableName.noConfusion
    exact (Database.record_congr same _).trans unrecorded

end Scripts

end Success

/-! ## The parts of an undisturbed start -/

section Parts

variable {build : Build} {held : Database -> Prop} (early : Early build held)

theorem settled_grows {digest : String -> String} {scope : Scope} {database later : Database} (settled : Settled database)
    (grows : Grows digest scope database later) (pair : later.has .groups = later.has .folderMetadata)
    (ledger : .appSchemaMigrations ∉ scope.tables) (sync : forall name, name ∈ syncTables -> name ∉ scope.tables)
    (inventory : forall name, name ∈ inventoryTables -> name ∉ scope.tables) (owner : scope.owner = false) :
    Settled later where
  pair := pair
  sync := fun there all => grows.recorded _
    (settled.sync ((grows.others _ ledger).symm.trans there) (back_hasAll grows sync all))
  inventory := fun there all => grows.recorded _
    (settled.inventory ((grows.others _ ledger).symm.trans there) (back_hasAll grows inventory all))
  owner := fun there owned => grows.recorded _
    (settled.owner ((grows.others _ ledger).symm.trans there) ((grows.owner owner).symm.trans owned))

/-- What the encryption registry leaves, when nothing disturbs it. -/
def Ready (build : Build) (held : Database -> Prop) (disk : Database) : Prop :=
  KeptWith build held upgradeTables disk ∧ Settled disk

/-- What is there behind the baseline. -/
def Managed (build : Build) (held : Database -> Prop) (disk : Database) : Prop :=
  KeptWith build held upgradeTables disk ∧ disk.has .appSchemaMigrations = true

/-- The transaction of the encryption registry, when its tables are there. -/
def Bringing (build : Build) (held : Database -> Prop) : Place -> Prop :=
  Inside fun disk contents => (KeptWith build held baseTableNames disk ∧ Settled disk) ∧
    Grows build.digest registryScope disk contents ∧ hasAll contents encryptionTables = true

theorem reaches_look {α : Type} (before : Database -> Prop) (look : Database -> α) :
    Program.Reaches (Outside before) (read fun database => .ok (look database) : Sql α)
      (fun found => Outside fun disk => before disk ∧ look disk = found) := by
  apply (reaches_read fun world _ => ⟨look world.view, rfl⟩).final
  rintro found world ⟨⟨quiet, there⟩, looked⟩
  unfold World.view at looked
  rw [quiet] at looked
  exact ⟨quiet, there, Except.ok.inj looked⟩

theorem reaches_found {α : Type} {before : Database -> Prop} {look : Database -> Except String α} {value : α}
    (looks : forall disk, before disk -> look disk = .ok value) :
    Program.Reaches (Outside before) (read look : Sql α) (fun found world => Outside before world ∧ found = value) := by
  have finds : forall world : Place, Outside before world -> look world.view = .ok value := by
    rintro world ⟨quiet, there⟩
    unfold World.view
    rw [quiet]
    exact looks world.disk there
  apply (reaches_read fun world there => ⟨value, finds world there⟩).final
  rintro found world ⟨there, looked⟩
  rw [finds world there] at looked
  exact ⟨there, (Except.ok.inj looked).symm⟩

include early

theorem reaches_baseTables :
    Program.Reaches (Outside fun disk => Kept build held disk ∧ Settled disk) (script baseTables : Sql Unit)
      (fun _ => Outside fun disk => KeptWith build held baseTableNames disk ∧ Settled disk) := by
  apply reaches_script_outside
  rintro disk ⟨kept, settled⟩
  rcases @baseTables_run build disk with ⟨later, made⟩
  have each := baseTables_within build
  have grows := applyAll_within each made
  have all : hasAll later baseTableNames = true := by
    rw [hasAll_iff]
    simp only [baseTableNames, List.forall_mem_cons]
    refine ⟨applyAll_creates each made fileActivityColumns ?_, applyAll_creates each made folderMetadataColumns ?_,
      applyAll_creates each made groupColumns ?_, applyAll_creates each made sharedLinkColumns ?_,
      fun _ member => (List.not_mem_nil member).elim⟩ <;> simp [baseTables]
  have there := hasAll_iff.mp all
  refine ⟨later, made, ⟨⟨?_, early.base disk later grows kept.2⟩, all⟩, ?_⟩
  · exact sane_grows kept.1 grows (there _ (by decide)) (Or.inr (by decide)) (Or.inr (by decide)) (Or.inr (by decide))
      (Or.inl (by decide)) (Or.inl List.not_mem_nil) (Or.inl List.not_mem_nil) (Or.inl List.not_mem_nil)
  · apply settled_grows settled grows _ (by decide) (by decide) (by decide) rfl
    rw [there .groups (by decide), there .folderMetadata (by decide)]

omit early in
theorem reaches_addMissing {inside : Database -> Database -> Prop} (addition : String × Value)
    (stays : forall disk contents later, inside disk contents -> contents.has .encryptedFiles = true ∧
      (Database.addColumn .encryptedFiles addition.1 addition.2 contents = .ok later -> inside disk later)) :
    Program.Reaches (Inside inside) (addMissing addition) (fun _ => Inside inside) := by
  apply Program.Reaches.bind
  · apply reaches_read
    exact fun world _ => ⟨_, rfl⟩
  · intro present
    cases present with
    | true => exact fun world there => ⟨(), world, rfl, there.1⟩
    | false =>
      apply reaches_statement
      rintro world ⟨⟨contents, works, there⟩, looked⟩
      have missing : addition.1 ∉ contents.columns .encryptedFiles := by
        unfold World.view at looked
        rw [works] at looked
        exact of_decide_eq_false (Except.ok.inj looked)
      have added : Database.addColumn .encryptedFiles addition.1 addition.2 contents =
          .ok (contents.update .encryptedFiles (Table.addColumn addition.1 addition.2)) := by
        unfold Database.addColumn
        rw [if_pos (stays _ _ contents there).1, if_neg missing]
      refine ⟨PUnit.unit, { world with
        working := some (contents.update .encryptedFiles (Table.addColumn addition.1 addition.2)) }, ?_, _, rfl,
        (stays _ _ _ there).2 added⟩
      unfold World.view
      rw [works]
      dsimp only [Option.getD_some]
      rw [added]

theorem reaches_runEncryptionMigration (now : Int) :
    Program.Reaches (Outside fun disk => KeptWith build held baseTableNames disk ∧ Settled disk)
      (runEncryptionMigration now)
      (fun _ => Outside (Ready build held)) := by
  have tables : Program.Reaches
      (Inside fun disk contents => (KeptWith build held baseTableNames disk ∧ Settled disk) ∧ contents = disk)
      (script registryTables : Sql Unit)
      (fun _ => Bringing build held) := by
    apply reaches_script_inside
    rintro disk contents ⟨kept, rfl⟩
    rcases @registryTables_run build contents with ⟨later, made⟩
    have each := registryTables_within build
    refine ⟨later, made, kept, applyAll_within each made, ?_⟩
    rw [hasAll_iff]
    simp only [encryptionTables, List.forall_mem_cons]
    refine ⟨applyAll_creates each made encryptedFileColumns ?_,
      applyAll_creates each made encryptionProfileColumns ?_, applyAll_creates each made encryptionVersionColumns ?_,
      fun _ member => (List.not_mem_nil member).elim⟩ <;> simp [registryTables]
  have columns : Program.Reaches
      (Bringing build held)
      (Program.each (additions.map addMissing))
      (fun _ => Bringing build held) := by
    apply Program.reaches_each
    intro one member
    rcases List.mem_map.mp member with ⟨addition, _, rfl⟩
    apply reaches_addMissing
    rintro disk contents later ⟨kept, grows, all⟩
    refine ⟨hasAll_iff.mp all _ (by decide), fun added => ?_⟩
    have within : Within build.digest registryScope (Database.addColumn .encryptedFiles addition.1 addition.2) :=
      within_addColumn TableName.noConfusion TableName.noConfusion fun _ => TableName.noConfusion
    have more := within contents later added
    exact ⟨kept, grows.trans more, hasAll_grows more all⟩
  have versioned : Program.Reaches
      (Bringing build held)
      (write (Database.insertOrIgnore .schemaVersion "version" (schemaVersionRow now)) : Sql Unit)
      (fun _ => Bringing build held) := by
    apply reaches_write_inside
    rintro disk contents ⟨kept, grows, all⟩
    have there : TableName.schemaVersion ∈ encryptionTables := by decide
    rcases insertOrIgnore_runs there "version" (schemaVersionRow now) contents all with ⟨later, made⟩
    have more : Grows build.digest registryScope contents later := schemaVersion_within now contents later made
    exact ⟨later, made, kept, grows.trans more, hasAll_grows more all⟩
  have commits : Program.Reaches
      (Bringing build held) (commit : Sql Unit)
      (fun _ => Outside (Ready build held)) := by
    apply reaches_commit
    rintro disk contents ⟨⟨kept, settled⟩, grows, all⟩
    refine ⟨registry_commits early kept grows all, ?_⟩
    apply settled_grows settled grows _ (by decide) (by decide) (by decide) rfl
    rw [grows.others _ (by decide), grows.others _ (by decide)]
    exact settled.pair
  exact reaches_begin.bind fun _ =>
    ((tables.bind fun _ => columns.bind fun _ => versioned).handle _).bind fun _ => commits

theorem reaches_installBaseline (now : Int) :
    Program.Reaches (Outside (Ready build held))
      (installBaseline build now)
      (fun _ => Outside (Managed build held)) := by
  have recorded : Program.Reaches
      (Outside fun disk => KeptWith build held upgradeTables disk ∧ disk.has .appSchemaMigrations = false)
      (recordBaseline build now)
      (fun _ => Outside (Managed build held)) := by
    have changes : Program.Reaches
        (Inside fun disk contents => (KeptWith build held upgradeTables disk ∧ disk.has .appSchemaMigrations = false) ∧
          contents = disk) (script (baselineChanges build now) : Sql Unit)
        (fun _ => Inside fun disk contents => KeptWith build held upgradeTables disk ∧
          applyAll (baselineChanges build now) disk = .ok contents) := by
      apply reaches_script_inside
      rintro disk contents ⟨⟨kept, absent⟩, rfl⟩
      rcases baselineChanges_run build now absent with ⟨later, made⟩
      exact ⟨later, made, kept, made⟩
    have touched : Program.Reaches
        (Outside (Managed build held)) touch
        (fun _ => Outside (Managed build held)) := reaches_statement fun world there => ⟨(), world, rfl, there⟩
    exact reaches_begin.bind fun _ => (changes.handle _).bind fun _ =>
      (reaches_commit fun _ _ there => baseline_commits early there.1 there.2).bind fun _ => touched
  have inspects := @reaches_found _ (Ready build held) (inspectSchema build.digest) .current
    fun disk ⟨kept, settled⟩ => by
      have all := hasAll_iff.mp kept.2
      apply inspectSchema_current kept.1.1 settled (all _ (by decide)) _ (all _ (by decide))
      exact hasAll_iff.mpr fun name member => all name (List.mem_append_left _ member)
  apply inspects.bind
  rintro layout world ⟨there, rfl⟩
  refine (reaches_look _ fun database => database.has .appSchemaMigrations).bind ?_ world there
  intro managed
  cases managed with
  | true => exact fun world there => ⟨(), world, rfl, there.1, there.2.1.1, there.2.2⟩
  | false => exact recorded.consequence (fun _ there => ⟨there.1, there.2.1.1, there.2.2⟩) fun _ _ there => there

omit early in
theorem reaches_transactionScript {before after : Database -> Prop}
    {changes : List (Database -> Except String Database)}
    (made : forall disk, before disk -> Exists fun later => applyAll changes disk = .ok later ∧ after later) :
    Program.Reaches (Outside before) (transactionScript changes) (fun _ => Outside after) := by
  have changed : Program.Reaches (Inside fun disk contents => before disk ∧ contents = disk) (script changes : Sql Unit)
      (fun _ => Inside fun _ contents => after contents) := by
    apply reaches_script_inside
    rintro disk contents ⟨there, rfl⟩
    exact made contents there
  exact reaches_begin.bind fun _ => changed.bind fun _ => reaches_commit fun _ _ there => there

/-- What is there when the baseline, folder sync and the inventory are recorded. -/
structure Migrated (build : Build) (held : Database -> Prop) (disk : Database) : Prop where
  kept : KeptWith build held upgradeTables disk
  ledger : disk.has .appSchemaMigrations = true
  sync : disk.record syncMigration.version ≠ none
  inventory : disk.record fileInventoryMigration.version ≠ none

theorem reaches_sync (now : Int) :
    Program.Reaches
      (Outside (Managed build held))
      (transactionScript (syncChanges build now))
      (fun _ => Outside fun disk => Managed build held disk ∧
        disk.record syncMigration.version ≠ none) := by
  apply reaches_transactionScript
  rintro disk ⟨kept, ledger⟩
  rcases syncChanges_run build now ledger with ⟨later, made⟩
  have grows := applyAll_within (syncChanges_within build now) made
  have commits := sync_commits early kept made
  exact ⟨later, made, ⟨commits.1, grows.keeps.has ledger⟩, commits.2⟩

theorem reaches_inventory (now : Int) :
    Program.Reaches
      (Outside fun disk => Managed build held disk ∧
        disk.record syncMigration.version ≠ none)
      (transactionScript (inventoryChanges build now)) (fun _ => Outside (Migrated build held)) := by
  apply reaches_transactionScript
  rintro disk ⟨⟨kept, ledger⟩, sync⟩
  rcases inventoryChanges_run build now ledger with ⟨later, made⟩
  have grows := applyAll_within (inventoryChanges_within build now) made
  have commits := inventory_commits early kept made
  exact ⟨later, made, ⟨commits.1, grows.keeps.has ledger, grows.recorded _ sync, commits.2⟩⟩

end Parts

/-! ## The column of the owner -/

section Owner

variable {build : Build} {held : Database -> Prop}

/-- The record of the owner says whether the column is there, when it can be added or is recorded. -/
theorem validate_owner {database : Database} (sane : Sane build.digest database)
    (recorded : hasShareOwner database = true -> database.record shareOwnerMigration.version ≠ none) :
    validateShareOwnerMigration build.digest database = .ok () := by
  unfold validateShareOwnerMigration
  rw [validateMigration_ok]
  exact ⟨recorded_iff sane.ownerMade recorded, sane.marks shareOwnerMigration (by simp [migrations])⟩

theorem reaches_installShareOwnership (stable : Stable build held) (now : Int) :
    Program.Reaches (Outside fun disk => Migrated build held disk ∧ Ownable disk) (installShareOwnership build now)
      (fun _ => Outside fun disk => Migrated build held disk ∧ disk.record shareOwnerMigration.version ≠ none) := by
  have changes : Program.Reaches
      (Inside fun disk contents => ((Migrated build held disk ∧ Ownable disk) ∧ hasShareOwner disk = false) ∧
        contents = disk) (script (ownershipChanges build now) : Sql Unit)
      (fun _ => Inside fun _ contents => Migrated build held contents ∧
        contents.record shareOwnerMigration.version ≠ none) := by
    apply reaches_script_inside
    rintro disk contents ⟨⟨⟨there, ownable⟩, missing⟩, rfl⟩
    have unrecorded : contents.record shareOwnerMigration.version = none := by
      by_contra recorded
      rw [there.kept.1.1.ownerMade recorded] at missing
      cases missing
    rcases ownershipChanges_run build now (hasAll_iff.mp there.kept.2 _ (by decide)) there.ledger missing
      (ownable.index missing) unrecorded with ⟨later, made⟩
    have grows := applyAll_within (ownershipChanges_within build now) made
    have commits := ownership_commits stable there.kept made
    exact ⟨later, made, ⟨commits.1, grows.keeps.has there.ledger, grows.recorded _ there.sync,
      grows.recorded _ there.inventory⟩, commits.2.2⟩
  have added : Program.Reaches
      (Outside fun disk => (Migrated build held disk ∧ Ownable disk) ∧ hasShareOwner disk = false)
      (addShareOwner build now)
      (fun _ => Outside fun disk => Migrated build held disk ∧ disk.record shareOwnerMigration.version ≠ none) :=
    reaches_begin.bind fun _ => (changes.bind fun _ => reaches_commit fun _ _ there => there).handle _
  apply (reaches_found fun disk there => validate_owner there.1.kept.1.1 there.2.recorded).bind
  rintro _ world ⟨there, -⟩
  refine (reaches_look _ hasShareOwner).bind ?_ world there
  intro present
  cases present with
  | true =>
    rintro world ⟨quiet, ⟨there, ownable⟩, owned⟩
    exact ⟨(), world, rfl, quiet, there, ownable.recorded owned⟩
  | false => exact added

/-- With an index of that name the column cannot be added. -/
theorem refuses_addShareOwner {before : Database -> Prop} (now : Int)
    (shared : forall disk, before disk -> disk.has .sharedLinks = true)
    (missing : forall disk, before disk -> hasShareOwner disk = false)
    (index : forall disk, before disk -> .sharedLinksOwner ∈ disk.indexes) :
    Program.Refuses (Outside before) (addShareOwner build now) (Outside before) := by
  have column : Program.Reaches (Inside fun disk contents => before disk ∧ contents = disk)
      (write (Database.addColumn .sharedLinks "owner_id" .null) : Sql Unit)
      (fun _ => Inside fun disk contents => before disk ∧ .sharedLinksOwner ∈ contents.indexes) := by
    apply reaches_write_inside
    rintro disk contents ⟨there, rfl⟩
    refine ⟨contents.update .sharedLinks (Table.addColumn "owner_id" .null), ?_, there, index contents there⟩
    unfold Database.addColumn
    rw [if_pos (shared contents there), if_neg (of_decide_eq_false (missing contents there))]
  have clash : Program.Refuses (Inside fun disk contents => before disk ∧ .sharedLinksOwner ∈ contents.indexes)
      (write (Database.createIndex .sharedLinksOwner .sharedLinks) : Sql Unit)
      (Inside fun disk contents => before disk ∧ .sharedLinksOwner ∈ contents.indexes) := by
    apply refuses_write_inside
    rintro disk contents ⟨_, member⟩
    unfold Database.createIndex
    rw [if_pos member]
    exact ⟨_, rfl⟩
  have body : Program.Refuses (Inside fun disk contents => before disk ∧ contents = disk)
      (do
        script (ownershipChanges build now)
        commit : Sql Unit)
      (Inside fun disk contents => before disk ∧ .sharedLinksOwner ∈ contents.indexes) :=
    (column.refuses fun _ => clash.bind _).bind _
  exact reaches_begin.refuses fun _ => refuses_rollingBack body fun _ _ there => there.1

theorem refuses_installShareOwnership (now : Int) :
    Program.Refuses (Outside fun disk => Migrated build held disk ∧ ¬ Ownable disk) (installShareOwnership build now)
      (Outside fun disk => Migrated build held disk ∧ ¬ Ownable disk) := by
  rintro world ⟨quiet, there, stuck⟩
  by_cases recorded : hasShareOwner world.disk = true -> world.disk.record shareOwnerMigration.version ≠ none
  · have indexed : hasShareOwner world.disk = false ∧ .sharedLinksOwner ∈ world.disk.indexes := by
      by_contra free
      exact stuck ⟨recorded, fun missing member => free ⟨missing, member⟩⟩
    have fails : Program.Refuses (Outside fun disk => disk = world.disk) (installShareOwnership build now)
        (Outside fun disk => disk = world.disk) := by
      apply (@reaches_found _ _ _ () _).refuses
      · rintro _ other ⟨held, -⟩
        refine (reaches_look _ hasShareOwner).refuses ?_ other held
        intro present
        cases present with
        | true =>
          rintro other ⟨_, same, owned⟩
          rw [same, indexed.1] at owned
          cases owned
        | false =>
          have adding := @refuses_addShareOwner build (fun disk => disk = world.disk) now
            (fun disk same => same ▸ hasAll_iff.mp there.kept.2 _ (by decide))
            (fun disk same => same ▸ indexed.1) (fun disk same => same ▸ indexed.2)
          exact fun other held => adding other ⟨held.1, held.2.1⟩
      · rintro disk rfl
        exact validate_owner there.kept.1.1 recorded
    rcases fails world ⟨quiet, rfl⟩ with ⟨error, next, failed, still, same⟩
    exact ⟨error, next, failed, still, same ▸ ⟨there, stuck⟩⟩
  · have invalid : Exists fun error => validateShareOwnerMigration build.digest world.view = .error error := by
      unfold World.view
      rw [quiet]
      cases valid : validateShareOwnerMigration build.digest world.disk with
      | error error => exact ⟨error, valid⟩
      | ok value =>
        unfold validateShareOwnerMigration at valid
        have told := (validateMigration_ok.mp valid).1
        refine (recorded fun owned => ?_).elim
        rw [owned] at told
        exact Option.isSome_iff_ne_none.mp told
    have fails : Program.Refuses (fun other => other = world) (installShareOwnership build now)
        (fun other => other = world) :=
      (refuses_read fun other same => same ▸ invalid).bind _
    rcases fails world rfl with ⟨error, next, failed, rfl⟩
    exact ⟨error, next, failed, quiet, there, stuck⟩

end Owner

end Upgrade
end TelegramDrive
