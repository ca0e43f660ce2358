import TelegramDrive.Upgrade.Growth

namespace TelegramDrive
namespace Upgrade

open Disturbance Transactions

/-!
# Starts that are interrupted

Wherever a start fails or is stopped, what is on disk is sane: the first tables come one
by one, and everything after them by a commit that brings tables and record together.
Together with sanity a start keeps whatever each of its parts keeps.
-/

def baseScope : Scope := ⟨[.sharedLinks, .groups, .folderMetadata, .fileActivity], [], false⟩

def registryScope : Scope := ⟨encryptionTables, [], false⟩

def baselineScope : Scope := ⟨[.appSchemaMigrations], [baseline.version], false⟩

def syncScope : Scope := ⟨syncTables, [syncMigration.version], false⟩

def inventoryScope : Scope := ⟨inventoryTables, [fileInventoryMigration.version], false⟩

def ownerScope : Scope := ⟨[], [shareOwnerMigration.version], true⟩

section Sanity

variable {digest : String -> String} {scope : Scope} {database later : Database}

theorem whole_grows (grows : Grows digest scope database later) {names : List TableName}
    (whole : hasAll database names = true ∨ names.any database.has = false)
    (brings : hasAll later names = true ∨ forall name, name ∈ names -> name ∉ scope.tables) :
    hasAll later names = true ∨ names.any later.has = false := by
  rcases brings with all | apart
  · exact Or.inl all
  · rcases whole with all | never
    · exact Or.inl (hasAll_iff.mpr fun name member => grows.keeps.has (hasAll_iff.mp all name member))
    · right
      rw [List.any_eq_false] at never ⊢
      intro name member
      rw [grows.others name (apart name member)]
      exact never name member

theorem hasAll_grows (grows : Grows digest scope database later) {names : List TableName}
    (all : hasAll database names = true) : hasAll later names = true :=
  hasAll_iff.mpr fun name member => grows.keeps.has (hasAll_iff.mp all name member)

theorem back_hasAll (grows : Grows digest scope database later) {names : List TableName}
    (apart : forall name, name ∈ names -> name ∉ scope.tables) (all : hasAll later names = true) :
    hasAll database names = true := by
  rw [hasAll_iff] at all ⊢
  exact fun name member => (grows.others name (apart name member)).symm.trans (all name member)

theorem owner_grows (grows : Grows digest scope database later) (owned : hasShareOwner database = true) :
    hasShareOwner later = true := by
  have there := of_decide_eq_true owned
  unfold Database.columns at there
  cases found : database.find .sharedLinks with
  | none =>
    rw [found] at there
    cases there
  | some table =>
    rw [found] at there
    rcases grows.keeps _ table found with ⟨after, stays, more⟩
    apply decide_eq_true
    unfold Database.columns
    rw [stays]
    exact more.columns there

theorem addColumn_owned (made : Database.addColumn .sharedLinks "owner_id" .null database = .ok later) :
    hasShareOwner later = true := by
  unfold Database.addColumn at made
  split at made
  next there =>
    split at made
    · cases made
    · cases made
      apply decide_eq_true
      rw [Database.columns_addColumn there, if_pos rfl]
      exact List.mem_append_right _ List.mem_cons_self
  · cases made

theorem made_grows (grows : Grows digest scope database later) {version : Int} {there thereLater : Prop}
    (made : database.record version ≠ none -> there) (stays : there -> thereLater)
    (brings : version ∉ scope.versions ∨ thereLater) (recorded : later.record version ≠ none) : thereLater := by
  rcases brings with outside | brought
  · rw [grows.records version outside] at recorded
    exact stays (made recorded)
  · exact brought

theorem sane_grows (sane : Sane digest database) (grows : Grows digest scope database later)
    (shared : later.has .sharedLinks = true)
    (encryption : hasAll later encryptionTables = true ∨ forall name, name ∈ encryptionTables -> name ∉ scope.tables)
    (inventory : hasAll later inventoryTables = true ∨ forall name, name ∈ inventoryTables -> name ∉ scope.tables)
    (sync : hasAll later syncTables = true ∨ forall name, name ∈ syncTables -> name ∉ scope.tables)
    (managed : .appSchemaMigrations ∉ scope.tables ∨ later.has .groups = true ∧ later.has .folderMetadata = true ∧
      hasAll later encryptionTables = true ∧ later.has .fileActivity = true ∧ later.record baseline.version ≠ none)
    (syncMade : syncMigration.version ∉ scope.versions ∨ hasAll later syncTables = true)
    (inventoryMade : fileInventoryMigration.version ∉ scope.versions ∨ hasAll later inventoryTables = true)
    (ownerMade : shareOwnerMigration.version ∉ scope.versions ∨ hasShareOwner later = true) : Sane digest later := by
  have content := grows.content sane.content
  exact {
    known := content.known
    shared := fun _ _ => shared
    columns := content.columns
    encryption := whole_grows grows sane.encryption encryption
    inventory := whole_grows grows sane.inventory inventory
    sync := whole_grows grows sane.sync sync
    registryVersions := content.registryVersions
    ledgerVersions := content.ledgerVersions
    marks := content.marks
    managed := by
      intro there
      rcases managed with outside | brought
      · rw [grows.others _ outside] at there
        rcases sane.managed there with ⟨groups, folders, registry, activity, first⟩
        exact ⟨grows.keeps.has groups, grows.keeps.has folders, hasAll_grows grows registry,
          grows.keeps.has activity, grows.recorded _ first⟩
      · exact brought
    syncMade := made_grows grows sane.syncMade (hasAll_grows grows) syncMade
    inventoryMade := made_grows grows sane.inventoryMade (hasAll_grows grows) inventoryMade
    ownerMade := made_grows grows sane.ownerMade (owner_grows grows) ownerMade }

end Sanity

/-! ## The parts of a start -/

section Parts

variable (build : Build)

theorem baseTables_within (change : Database -> Except String Database) (member : change ∈ baseTables) :
    Within build.digest baseScope change := by
  simp only [baseTables, List.mem_cons, List.not_mem_nil, or_false] at member
  rcases member with rfl | rfl | rfl | rfl | rfl | rfl | rfl
  · exact within_createIfAbsent (by decide)
  · exact within_createIfAbsent (by decide)
  · exact within_createIfAbsent (by decide)
  · exact within_createIfAbsent (by decide)
  · exact within_createIndexIfAbsent fun _ => IndexName.noConfusion
  · exact within_createIndexIfAbsent fun _ => IndexName.noConfusion
  · exact within_createIndexIfAbsent fun _ => IndexName.noConfusion

theorem registryTables_within (change : Database -> Except String Database) (member : change ∈ registryTables) :
    Within build.digest registryScope change := by
  simp only [registryTables, List.mem_cons, List.not_mem_nil, or_false] at member
  rcases member with rfl | rfl | rfl
  · exact within_createIfAbsent (by decide)
  · exact within_createIfAbsent (by decide)
  · exact within_createIfAbsent (by decide)

theorem schemaVersion_within {digest : String -> String} (now : Int) :
    Within digest registryScope (Database.insertOrIgnore .schemaVersion "version" (schemaVersionRow now)) := by
  apply within_insertOrIgnore TableName.noConfusion
  intro version shown
  cases shown
  decide

theorem baselineChanges_within (now : Int) (change : Database -> Except String Database)
    (member : change ∈ baselineChanges build now) : Within build.digest baselineScope change := by
  simp only [baselineChanges, List.mem_cons, List.not_mem_nil, or_false] at member
  rcases member with rfl | rfl
  · exact within_create (by decide)
  · exact within_record (by simp [migrations]) List.mem_cons_self

theorem syncSetting_within (key value : String) : Within build.digest syncScope (syncSetting key value) := by
  apply within_insertOrIgnore TableName.noConfusion
  intro version shown
  simp [Row.get] at shown

theorem syncChanges_within (now : Int) (change : Database -> Except String Database)
    (member : change ∈ syncChanges build now) : Within build.digest syncScope change := by
  simp only [syncChanges, List.mem_cons, List.not_mem_nil, or_false] at member
  rcases member with rfl | rfl | rfl | rfl | rfl | rfl | rfl | rfl | rfl | rfl
  · exact within_createIfAbsent (by decide)
  · exact within_createIfAbsent (by decide)
  · exact within_createIfAbsent (by decide)
  · exact within_createIfAbsent (by decide)
  · exact within_createIndexIfAbsent fun _ => IndexName.noConfusion
  · exact within_createIndexIfAbsent fun _ => IndexName.noConfusion
  · exact syncSetting_within build _ _
  · exact syncSetting_within build _ _
  · exact syncSetting_within build _ _
  · exact within_recordOrIgnore (by simp [migrations]) List.mem_cons_self

theorem inventoryChanges_within (now : Int) (change : Database -> Except String Database)
    (member : change ∈ inventoryChanges build now) : Within build.digest inventoryScope change := by
  simp only [inventoryChanges, List.mem_cons, List.not_mem_nil, or_false] at member
  rcases member with rfl | rfl | rfl | rfl
  · exact within_createIfAbsent (by decide)
  · exact within_createIndexIfAbsent fun _ => IndexName.noConfusion
  · exact within_createIfAbsent (by decide)
  · exact within_recordOrIgnore (by simp [migrations]) List.mem_cons_self

theorem ownershipChanges_within (now : Int) (change : Database -> Except String Database)
    (member : change ∈ ownershipChanges build now) : Within build.digest ownerScope change := by
  simp only [ownershipChanges, List.mem_cons, List.not_mem_nil, or_false] at member
  rcases member with rfl | rfl | rfl
  · exact within_addColumn TableName.noConfusion TableName.noConfusion fun quiet => by cases quiet
  · exact within_createIndex fun quiet => by cases quiet
  · exact within_record (by simp [migrations]) List.mem_cons_self

/-- The tables that the first part of a start leaves. -/
def baseTableNames : List TableName := [.fileActivity, .folderMetadata, .groups, .sharedLinks]

/-- The tables that are there behind the encryption registry. -/
def upgradeTables : List TableName := encryptionTables ++ baseTableNames

/-- What each part of a start keeps, but the last. -/
structure Early (held : Database -> Prop) : Prop where
  base : forall database later, Grows build.digest baseScope database later -> held database -> held later
  registry : forall database later, Grows build.digest registryScope database later -> held database -> held later
  baseline : forall database later, Grows build.digest baselineScope database later -> held database -> held later
  sync : forall database later, Grows build.digest syncScope database later ->
    later.record syncMigration.version ≠ none -> held database -> held later
  inventory : forall database later, Grows build.digest inventoryScope database later ->
    later.record fileInventoryMigration.version ≠ none -> held database -> held later

/-- What each part of a start keeps. -/
structure Stable (held : Database -> Prop) : Prop extends Early build held where
  owner : forall database later, Grows build.digest ownerScope database later ->
    later.record shareOwnerMigration.version ≠ none -> hasShareOwner later = true -> held database -> held later

/-- Sanity, and what else is kept. -/
def Kept (held : Database -> Prop) (disk : Database) : Prop := Sane build.digest disk ∧ held disk

/-- What is kept, with tables that are there. -/
def KeptWith (held : Database -> Prop) (names : List TableName) (disk : Database) : Prop :=
  Kept build held disk ∧ hasAll disk names = true

/-- The contents of a transaction that has just begun. -/
def Begun (held : Database -> Prop) (names : List TableName) : Place -> Prop :=
  Inside fun disk contents => KeptWith build held names disk ∧ contents = disk

/-- The contents of the transaction of the encryption registry, with the tables that it brought. -/
def Registering (held : Database -> Prop) (brought : List TableName) : Place -> Prop :=
  Inside fun disk contents => KeptWith build held baseTableNames disk ∧
    Grows build.digest registryScope disk contents ∧ hasAll contents brought = true

variable {build} {held : Database -> Prop} (early : Early build held)

include early

/-- A statement of the first part keeps what is kept, when it makes the shared links or finds them. -/
theorem base_step {change : Database -> Except String Database} (member : change ∈ baseTables)
    {names : List TableName} {disk changed : Database} (kept : KeptWith build held names disk)
    (made : change disk = .ok changed) (shared : changed.has .sharedLinks = true) :
    KeptWith build held names changed := by
  have grows := baseTables_within build change member disk changed made
  refine ⟨⟨?_, early.base disk changed grows kept.1.2⟩, hasAll_grows grows kept.2⟩
  exact sane_grows kept.1.1 grows shared (Or.inr (by decide)) (Or.inr (by decide)) (Or.inr (by decide))
    (Or.inl (by decide)) (Or.inl List.not_mem_nil) (Or.inl List.not_mem_nil) (Or.inl List.not_mem_nil)

theorem ends_base_write {change : Database -> Except String Database} (member : change ∈ baseTables)
    (names : List TableName) (name : TableName) (makes : Makes change name) (shared : .sharedLinks ∈ name :: names) :
    Program.Leads (Outside (KeptWith build held names)) (write change : Sql Unit)
      (fun _ => Outside (KeptWith build held (name :: names))) (Outside (Kept build held)) := by
  have statement : Program.Leads (Outside (KeptWith build held names)) (write change : Sql Unit)
      (fun _ => Outside (KeptWith build held (name :: names))) (Outside (KeptWith build held names)) := by
    apply ends_write_outside
    intro disk changed kept made
    have grows := baseTables_within build change member disk changed made
    have tables : hasAll changed (name :: names) = true := by
      rw [hasAll_iff, List.forall_mem_cons]
      exact ⟨makes disk changed made, hasAll_iff.mp (hasAll_grows grows kept.2)⟩
    exact ⟨(base_step early member kept made (hasAll_iff.mp tables _ shared)).1, tables⟩
  exact statement.weaken fun _ there => ⟨there.1, there.2.1⟩

/-- The first tables come one by one, the shared links before the others. -/
theorem ends_baseTables :
    Program.Leads (Outside (Kept build held)) (script baseTables : Sql Unit)
      (fun _ => Outside (KeptWith build held baseTableNames)) (Outside (Kept build held)) := by
  have shared := ends_base_write early (by simp [baseTables]) [] .sharedLinks
    (createIfAbsent_makes _ sharedLinkColumns) (by decide)
  have groups := ends_base_write early (by simp [baseTables]) [.sharedLinks] .groups
    (createIfAbsent_makes _ groupColumns) (by decide)
  have folders := ends_base_write early (by simp [baseTables]) [.groups, .sharedLinks] .folderMetadata
    (createIfAbsent_makes _ folderMetadataColumns) (by decide)
  have activity := ends_base_write early (by simp [baseTables]) [.folderMetadata, .groups, .sharedLinks]
    .fileActivity (createIfAbsent_makes _ fileActivityColumns) (by decide)
  have indexes : Program.Keeps (Outside (KeptWith build held baseTableNames)) (script (baseTables.drop 4) : Sql Unit) := by
    apply ends_script_outside
    intro change member disk changed kept made
    have grows := baseTables_within build change (List.mem_of_mem_drop member) disk changed made
    apply base_step early (List.mem_of_mem_drop member) kept made
    exact grows.keeps.has (hasAll_iff.mp kept.2 _ (by decide))
  have rest := indexes.weaken fun _ there => (⟨there.1, there.2.1⟩ : Outside (Kept build held) _)
  have all := ends_script_cons shared (ends_script_cons groups (ends_script_cons folders (ends_script_cons activity rest)))
  exact all.start fun _ there => ⟨there.1, there.2, rfl⟩

end Parts

/-! ## Transactions -/

section Commits

variable {build : Build} {held : Database -> Prop}

theorem ends_kept_begin (names : List TableName) :
    Program.Leads (On (KeptWith build held names)) (beginTransaction : Sql Unit) (fun _ => Begun build held names)
      (On (KeptWith build held names)) := by
  apply (ends_begin (fun _ undone there => On.undo there undone) fun _ there => there).final
  rintro _ world ⟨outer, there, _, disk, works⟩
  exact ⟨outer.disk, works, disk ▸ there, disk.symm⟩

/-- The statements of a script in a transaction that has just begun. -/
theorem ends_kept_script (names : List TableName) (changes : List (Database -> Except String Database)) :
    Program.Leads (Begun build held names) (script changes : Sql Unit)
      (fun _ => Inside fun disk contents => KeptWith build held names disk ∧ applyAll changes disk = .ok contents)
      (On (KeptWith build held names)) := by
  have runs : Program.Leads (Begun build held names) (script changes : Sql Unit) _ (On (KeptWith build held names)) :=
    ends_script_inside changes fun disk contents there => there.1
  apply runs.final
  rintro _ world ⟨contents, works, earlier, ⟨kept, rfl⟩, made⟩
  exact ⟨contents, works, kept, made⟩

section Scripts

variable {names after : List TableName} {changes : List (Database -> Except String Database)}
  (commits : forall disk contents, KeptWith build held names disk -> applyAll changes disk = .ok contents ->
    KeptWith build held after contents)

include commits

theorem ends_kept_commit :
    Program.Leads (Inside fun disk contents => KeptWith build held names disk ∧ applyAll changes disk = .ok contents)
      (commit : Sql Unit) (fun _ => Outside (KeptWith build held after)) (On (KeptWith build held names)) :=
  ends_commit (fun disk contents there => commits disk contents there.1 there.2) fun _ _ there => there.1

theorem ends_transactionScript :
    Program.Leads (On (KeptWith build held names)) (transactionScript changes)
      (fun _ => Outside (KeptWith build held after)) (On (KeptWith build held names)) :=
  (ends_kept_begin names).bind fun _ => (ends_kept_script names changes).bind fun _ => ends_kept_commit commits

end Scripts

theorem ends_retry {α : Type} {kept stopped : Place -> Prop} {done : α -> Place -> Prop} {program : Sql α}
    (ends : Program.Ends kept program done kept stopped) (stepName : String) :
    Program.Ends kept (retryInitializationStep stepName program) done kept stopped :=
  (ends.attempts maxDbInitRetries "").handle fun _ => Program.ends_fail _

theorem ends_retryMigration {kept stopped : Place -> Prop} {done : Unit -> Place -> Prop} {program : Sql Unit}
    (ends : Program.Ends kept program done kept stopped) (backup : Bool) (stepName : String) :
    Program.Ends kept (retryMigration backup stepName program) done kept stopped :=
  (ends.attempts maxDbInitRetries "").handle fun _ => Program.ends_fail _

/-! ## What the transactions commit -/

section Parts

variable (early : Early build held)

include early

variable {disk contents : Database}

/-- The tables of the encryption registry come together. -/
theorem registry_commits (kept : KeptWith build held baseTableNames disk)
    (grows : Grows build.digest registryScope disk contents) (all : hasAll contents encryptionTables = true) :
    KeptWith build held upgradeTables contents := by
  have base := hasAll_iff.mp (hasAll_grows grows kept.2)
  refine ⟨⟨?_, early.registry disk contents grows kept.1.2⟩, ?_⟩
  · exact sane_grows kept.1.1 grows (base _ (by decide)) (Or.inl all) (Or.inr (by decide)) (Or.inr (by decide))
      (Or.inl (by decide)) (Or.inl List.not_mem_nil) (Or.inl List.not_mem_nil) (Or.inl List.not_mem_nil)
  · rw [hasAll_iff]
    intro name member
    rcases List.mem_append.mp member with registry | early
    · exact hasAll_iff.mp all name registry
    · exact base name early

theorem baseline_commits {now : Int} (kept : KeptWith build held upgradeTables disk)
    (made : applyAll (baselineChanges build now) disk = .ok contents) :
    KeptWith build held upgradeTables contents ∧
      contents.has .appSchemaMigrations = true := by
  have each := baselineChanges_within build now
  have grows := applyAll_within each made
  have all := hasAll_iff.mp (hasAll_grows grows kept.2)
  have ledger : contents.has .appSchemaMigrations = true :=
    applyAll_holds each (fun _ _ grows there => grows.keeps.has there) List.mem_cons_self
      (create_makes _ migrationLedgerColumns) made
  have first : contents.record baseline.version ≠ none :=
    applyAll_holds each (fun _ _ grows there => grows.recorded _ there) (List.mem_cons_of_mem _ List.mem_cons_self)
      (fun _ _ inserted => record_inserted inserted) made
  have registry : hasAll contents encryptionTables = true :=
    hasAll_iff.mpr fun name member => all name (List.mem_append_left _ member)
  refine ⟨⟨⟨?_, early.baseline disk contents grows kept.1.2⟩, hasAll_iff.mpr all⟩, ledger⟩
  exact sane_grows kept.1.1 grows (all _ (by decide)) (Or.inl registry) (Or.inr (by decide)) (Or.inr (by decide))
    (Or.inr ⟨all _ (by decide), all _ (by decide), registry, all _ (by decide), first⟩) (Or.inl (by decide))
    (Or.inl (by decide)) (Or.inl (by decide))

theorem sync_commits {now : Int} (kept : KeptWith build held upgradeTables disk)
    (made : applyAll (syncChanges build now) disk = .ok contents) :
    KeptWith build held upgradeTables contents ∧
      contents.record syncMigration.version ≠ none := by
  have each := syncChanges_within build now
  have grows := applyAll_within each made
  have all := hasAll_iff.mp (hasAll_grows grows kept.2)
  have last : Database.insertOrIgnore .appSchemaMigrations "version" (ledgerRow build syncMigration now) ∈
      syncChanges build now := by simp [syncChanges]
  have recorded : contents.record syncMigration.version ≠ none :=
    applyAll_holds each (fun _ _ grows there => grows.recorded _ there) last (fun _ _ inserted => record_made inserted) made
  have tables : hasAll contents syncTables = true := by
    rw [hasAll_iff]
    simp only [syncTables, List.forall_mem_cons]
    refine ⟨applyAll_creates each made syncSettingColumns ?_, applyAll_creates each made syncPairColumns ?_,
      applyAll_creates each made syncStateColumns ?_, applyAll_creates each made syncLogColumns ?_,
      fun _ member => (List.not_mem_nil member).elim⟩
    · exact List.mem_cons_self
    · exact List.mem_cons_of_mem _ List.mem_cons_self
    · exact List.mem_cons_of_mem _ (List.mem_cons_of_mem _ List.mem_cons_self)
    · exact List.mem_cons_of_mem _ (List.mem_cons_of_mem _ (List.mem_cons_of_mem _ List.mem_cons_self))
  refine ⟨⟨⟨?_, early.sync disk contents grows recorded kept.1.2⟩, hasAll_iff.mpr all⟩, recorded⟩
  exact sane_grows kept.1.1 grows (all _ (by decide)) (Or.inr (by decide)) (Or.inr (by decide)) (Or.inl tables)
    (Or.inl (by decide)) (Or.inr tables) (Or.inl (by decide)) (Or.inl (by decide))

theorem inventory_commits {now : Int} (kept : KeptWith build held upgradeTables disk)
    (made : applyAll (inventoryChanges build now) disk = .ok contents) :
    KeptWith build held upgradeTables contents ∧
      contents.record fileInventoryMigration.version ≠ none := by
  have each := inventoryChanges_within build now
  have grows := applyAll_within each made
  have all := hasAll_iff.mp (hasAll_grows grows kept.2)
  have last : Database.insertOrIgnore .appSchemaMigrations "version" (ledgerRow build fileInventoryMigration now) ∈
      inventoryChanges build now := by simp [inventoryChanges]
  have recorded : contents.record fileInventoryMigration.version ≠ none :=
    applyAll_holds each (fun _ _ grows there => grows.recorded _ there) last (fun _ _ inserted => record_made inserted) made
  have tables : hasAll contents inventoryTables = true := by
    rw [hasAll_iff]
    simp only [inventoryTables, List.forall_mem_cons]
    refine ⟨applyAll_creates each made fileInventoryColumns ?_,
      applyAll_creates each made fileInventoryStateColumns ?_, fun _ member => (List.not_mem_nil member).elim⟩
    · exact List.mem_cons_self
    · exact List.mem_cons_of_mem _ (List.mem_cons_of_mem _ List.mem_cons_self)
  refine ⟨⟨⟨?_, early.inventory disk contents grows recorded kept.1.2⟩, hasAll_iff.mpr all⟩, recorded⟩
  exact sane_grows kept.1.1 grows (all _ (by decide)) (Or.inr (by decide)) (Or.inl tables) (Or.inr (by decide))
    (Or.inl (by decide)) (Or.inl (by decide)) (Or.inr tables) (Or.inl (by decide))

end Parts

section Whole

variable (stable : Stable build held)

include stable

theorem ownership_commits {disk contents : Database} {now : Int}
    (kept : KeptWith build held upgradeTables disk)
    (made : applyAll (ownershipChanges build now) disk = .ok contents) :
    KeptWith build held upgradeTables contents ∧ hasShareOwner contents = true ∧
      contents.record shareOwnerMigration.version ≠ none := by
  have each := ownershipChanges_within build now
  have grows := applyAll_within each made
  have all := hasAll_iff.mp (hasAll_grows grows kept.2)
  have last : Database.insert .appSchemaMigrations "version" (ledgerRow build shareOwnerMigration now) ∈
      ownershipChanges build now := by simp [ownershipChanges]
  have recorded : contents.record shareOwnerMigration.version ≠ none :=
    applyAll_holds each (fun _ _ grows there => grows.recorded _ there) last (fun _ _ inserted => record_inserted inserted) made
  have owned : hasShareOwner contents = true :=
    applyAll_holds each (fun _ _ grows there => owner_grows grows there) List.mem_cons_self
      (fun _ _ added => addColumn_owned added) made
  refine ⟨⟨⟨?_, stable.owner disk contents grows recorded owned kept.1.2⟩, hasAll_iff.mpr all⟩, owned, recorded⟩
  exact sane_grows kept.1.1 grows (all _ (by decide)) (Or.inr (by decide)) (Or.inr (by decide)) (Or.inr (by decide))
    (Or.inl (by decide)) (Or.inl (by decide)) (Or.inl (by decide)) (Or.inr owned)

/-! ## Each part of a start -/

omit stable in
theorem ends_registry_write {brought : List TableName} {change : Database -> Except String Database}
    (within : Within build.digest registryScope change) :
    Program.Leads (Registering build held brought) (write change : Sql Unit) (fun _ => Registering build held brought)
      (On (KeptWith build held baseTableNames)) := by
  apply ends_write_inside
  · rintro disk contents changed ⟨kept, grows, all⟩ made
    have more := within contents changed made
    exact ⟨kept, grows.trans more, hasAll_grows more all⟩
  · exact fun disk contents there => there.1

omit stable in
theorem ends_addMissing {brought : List TableName} (addition : String × Value) :
    Program.Leads (Registering build held brought) (addMissing addition) (fun _ => Registering build held brought)
      (On (KeptWith build held baseTableNames)) := by
  apply Program.Ends.bind
  · have under : forall world : Place, Registering build held brought world -> On (KeptWith build held baseTableNames) world :=
      fun _ ⟨_, _, there⟩ => there.1
    exact ends_read (fun world undone there => (under world there).undo undone) under
  · intro present
    cases present with
    | true => exact ⟨fun _ _ there => there.1⟩
    | false =>
      apply (ends_registry_write _).start fun _ there => there.1
      exact within_addColumn TableName.noConfusion TableName.noConfusion fun _ => TableName.noConfusion

omit stable in
theorem ends_registryTables :
    Program.Leads (Begun build held baseTableNames) (script registryTables : Sql Unit)
      (fun _ => Registering build held encryptionTables) (On (KeptWith build held baseTableNames)) := by
  apply (ends_kept_script baseTableNames registryTables).final
  rintro _ world ⟨contents, works, kept, made⟩
  have each := registryTables_within build
  refine ⟨contents, works, kept, applyAll_within each made, ?_⟩
  rw [hasAll_iff]
  simp only [encryptionTables, List.forall_mem_cons]
  refine ⟨applyAll_creates each made encryptedFileColumns ?_, applyAll_creates each made encryptionProfileColumns ?_,
    applyAll_creates each made encryptionVersionColumns ?_, fun _ member => (List.not_mem_nil member).elim⟩
  · exact List.mem_cons_self
  · exact List.mem_cons_of_mem _ List.mem_cons_self
  · exact List.mem_cons_of_mem _ (List.mem_cons_of_mem _ List.mem_cons_self)

theorem ends_runEncryptionMigration (now : Int) :
    Program.Leads (On (KeptWith build held baseTableNames)) (runEncryptionMigration now)
      (fun _ => Outside (KeptWith build held upgradeTables)) (On (KeptWith build held baseTableNames)) := by
  have columns : Program.Leads (Registering build held encryptionTables) (Program.each (additions.map addMissing))
      (fun _ => Registering build held encryptionTables) (On (KeptWith build held baseTableNames)) := by
    apply Program.ends_each
    intro one member
    rcases List.mem_map.mp member with ⟨addition, _, rfl⟩
    exact ends_addMissing addition
  have body := ends_rollingBack (ends_registryTables.bind fun _ => columns.bind fun _ =>
    ends_registry_write (schemaVersion_within now))
  have commits : Program.Leads (Registering build held encryptionTables) (commit : Sql Unit)
      (fun _ => Outside (KeptWith build held upgradeTables)) (On (KeptWith build held baseTableNames)) :=
    ends_commit (fun disk contents there => registry_commits stable.toEarly there.1 there.2.1 there.2.2)
      fun _ _ there => there.1
  exact (ends_kept_begin baseTableNames).bind fun _ => body.bind fun _ => commits

theorem ends_installBaseline (now : Int) :
    Program.Keeps (On (KeptWith build held upgradeTables)) (installBaseline build now) := by
  have touches : Program.Keeps (Outside (KeptWith build held upgradeTables)) touch := ends_beside fun _ => ⟨rfl, rfl⟩
  have checked : Program.Leads (Outside (KeptWith build held upgradeTables)) touch
      (fun _ => On (KeptWith build held upgradeTables)) (On (KeptWith build held upgradeTables)) :=
    (touches.final fun _ _ there => there.2).weaken fun _ there => there.2
  have recorded : Program.Keeps (On (KeptWith build held upgradeTables)) (recordBaseline build now) :=
    (ends_kept_begin upgradeTables).bind fun _ =>
      (ends_rollingBack (ends_kept_script upgradeTables (baselineChanges build now))).bind fun _ =>
        (ends_kept_commit fun _ _ kept made => (baseline_commits stable.toEarly kept made).1).bind fun _ => checked
  apply (ends_read_on (inspectSchema build.digest)).bind
  intro layout
  split
  · apply ((ends_read_on _).start fun _ there => there.1).bind
    intro managed
    cases managed with
    | true => exact ⟨fun _ _ there => there.1⟩
    | false => exact recorded.start fun _ there => there.1
  · exact ⟨fun _ _ there => there.1⟩

theorem ends_sync (now : Int) :
    Program.Keeps (On (KeptWith build held upgradeTables)) (transactionScript (syncChanges build now)) :=
  (ends_transactionScript fun _ _ kept made => (sync_commits stable.toEarly kept made).1).final fun _ _ there => there.2

theorem ends_inventory (now : Int) :
    Program.Keeps (On (KeptWith build held upgradeTables)) (transactionScript (inventoryChanges build now)) :=
  (ends_transactionScript fun _ _ kept made => (inventory_commits stable.toEarly kept made).1).final fun _ _ there => there.2

theorem ends_installShareOwnership (now : Int) :
    Program.Keeps (On (KeptWith build held upgradeTables)) (installShareOwnership build now) := by
  have added : Program.Leads (On (KeptWith build held upgradeTables)) (addShareOwner build now)
      (fun _ => Outside (KeptWith build held upgradeTables)) (On (KeptWith build held upgradeTables)) :=
    (ends_kept_begin upgradeTables).bind fun _ =>
      ends_rollingBack ((ends_kept_script upgradeTables (ownershipChanges build now)).bind fun _ =>
        ends_kept_commit fun _ _ kept made => (ownership_commits stable kept made).1)
  apply (ends_read_on (validateShareOwnerMigration build.digest)).bind
  intro _
  apply ((ends_read_on _).start fun _ there => there.1).bind
  intro present
  cases present with
  | true => exact ⟨fun _ _ there => there.1⟩
  | false => exact (added.start fun _ there => there.1).final fun _ _ there => there.2

/-! ## A whole start -/

omit stable in
theorem ends_openDatabase :
    Program.Keeps (Outside (Kept build held)) openDatabase := by
  have touches : Program.Keeps (Outside (Kept build held)) touch := ends_beside fun _ => ⟨rfl, rfl⟩
  exact ((touches.attempts _ _).handle fun _ => Program.ends_fail _).bind fun _ =>
    touches.handle fun _ => Program.ends_fail _

omit stable in
theorem ends_checkBackup :
    Program.Keeps (Outside (Kept build held)) (checkBackup build) := by
  apply ends_beside
  intro world
  split <;> exact ⟨rfl, rfl⟩

omit stable in
/-- The copy is made beside the database. -/
theorem ends_makeBackup :
    Program.Keeps (Outside (Kept build held)) (makeBackup build) := by
  have copies : Program.Keeps (Outside (Kept build held)) vacuumInto := by
    apply Program.ends_step
    intro fault world there
    cases fault with
    | none => exact there
    | some fault =>
      cases fault with
      | fails undone left => exact there.undo undone
      | stops left => exact there
  have looks : Program.Keeps (Outside (Kept build held)) backupExists := ends_beside fun _ => ⟨rfl, rfl⟩
  have touches : Program.Keeps (Outside (Kept build held)) touch := ends_beside fun _ => ⟨rfl, rfl⟩
  apply looks.bind
  intro already
  cases already with
  | true => exact ends_checkBackup
  | false => exact copies.bind fun _ => touches.bind fun _ => ends_checkBackup

omit stable in
theorem ends_kept_read {α : Type} (look : Database -> Except String α) :
    Program.Keeps (Outside (Kept build held)) (read look : Sql α) := by
  apply ends_beside
  intro world
  split <;> exact ⟨rfl, rfl⟩

omit stable in
theorem ends_prepareBaselineBackup (sourceLayout : SchemaLayout) :
    Program.Keeps (Outside (Kept build held)) (prepareBaselineBackup build sourceLayout) := by
  unfold prepareBaselineBackup
  split
  · exact ⟨fun _ _ there => there⟩
  · apply (ends_kept_read _).bind
    intro managed
    cases managed with
    | true => exact ⟨fun _ _ there => there⟩
    | false => exact ends_makeBackup

theorem ends_migrations (clock : Int -> Int) (backup : Bool) :
    Program.Leads (Outside (KeptWith build held baseTableNames)) (do
        retryMigration backup "run encryption migration" (runEncryptionMigration (clock 0))
        retryMigration backup "install database migration baseline" (installBaseline build (clock 1))
        retryInitializationStep "folder sync migration" (transactionScript (syncChanges build (clock 2)))
        retryInitializationStep "file inventory migration" (transactionScript (inventoryChanges build (clock 3)))
        retryInitializationStep "share ownership migration" (installShareOwnership build (clock 4)))
      (fun _ => On (Kept build held)) (On (Kept build held)) := by
  have weaken : forall (names : List TableName) (world : Place), On (KeptWith build held names) world ->
      On (Kept build held) world := fun _ _ there => there.1
  have registry := ((ends_retryMigration (ends_runEncryptionMigration stable (clock 0)) backup
    "run encryption migration").consequence (fun _ there => there) (fun _ _ there => there.2)
    (weaken _) (weaken _)).start fun (world : Place) (there : Outside (KeptWith build held baseTableNames) world) => there.2
  have first := (ends_retryMigration (ends_installBaseline stable (clock 1)) backup
    "install database migration baseline").weaken (weaken _)
  have sync := (ends_retry (ends_sync stable (clock 2)) "folder sync migration").weaken (weaken _)
  have inventory := (ends_retry (ends_inventory stable (clock 3)) "file inventory migration").weaken (weaken _)
  have owner := (ends_retry (ends_installShareOwnership stable (clock 4)) "share ownership migration").consequence
    (fun _ there => there) (fun _ => weaken _) (weaken _) (weaken _)
  exact registry.bind fun _ => first.bind fun _ => sync.bind fun _ => inventory.bind fun _ => owner

theorem ends_initDbAt (clock : Int -> Int) :
    Program.Leads (Outside (Kept build held)) (initDbAt build clock) (fun _ => On (Kept build held))
      (On (Kept build held)) := by
  have weaken : forall world : Place, Outside (Kept build held) world -> On (Kept build held) world :=
    fun _ there => there.2
  have opens : Program.Leads (Outside (Kept build held)) openDatabase (fun _ => Outside (Kept build held))
      (On (Kept build held)) :=
    ends_openDatabase.weaken weaken
  have inspects := (ends_retry (@ends_kept_read build held _ (inspectSchema build.digest))
    "database preflight").weaken weaken
  have prepares := fun layout => (ends_retry (@ends_prepareBaselineBackup build held layout)
    "database backup preparation").weaken weaken
  have touches : Program.Keeps (Outside (Kept build held)) touch := ends_beside fun _ => ⟨rfl, rfl⟩
  have configures := (ends_retry touches "database WAL configuration").weaken weaken
  have tables := fun backup => (ends_retryMigration (ends_baseTables stable.toEarly) backup
    "run SQLite migration").weaken weaken
  exact opens.bind fun _ => inspects.bind fun layout => (prepares layout).bind fun backup =>
    configures.bind fun _ => (tables backup).bind fun _ => ends_migrations stable clock backup

theorem run_keeps {attempts : List Attempt} {place left : Place}
    (run : (machine build).Run Machine.anything place attempts left) (start : Outside (Kept build held) place) :
    Outside (Kept build held) left := by
  apply run.invariant (Outside (Kept build held)) _ start
  intro place attempt next _ there moved
  cases Option.some.inj moved
  exact ⟨rfl, (ends_initDbAt stable attempt.clock).always there attempt.faults⟩

end Whole

end Commits

end Upgrade
end TelegramDrive
