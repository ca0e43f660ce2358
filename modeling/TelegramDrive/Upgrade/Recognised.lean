import TelegramDrive.Upgrade.Changes

namespace TelegramDrive
namespace Upgrade

/-!
# What the preflight accepts

A database that is accepted is sane, which every start leaves it, and settled, which an
interrupted start may undo: the two tables of the folder metadata are there together, and
what later migrations made has its record.
-/

/-- The migrations that have a record. -/
def migrations : List Migration := [baseline, syncMigration, fileInventoryMigration, shareOwnerMigration]

section Recognition

variable (digest : String -> String) (database : Database)

/-- What no start takes from a database. -/
structure Sane : Prop where
  known : forall name, database.has name = true -> name.isKnown = true
  shared : forall name, database.has name = true -> database.has .sharedLinks = true
  columns : forall name, database.has name = true -> requiredColumns name ⊆ database.columns name
  encryption : hasAll database encryptionTables = true ∨ encryptionTables.any database.has = false
  inventory : hasAll database inventoryTables = true ∨ inventoryTables.any database.has = false
  sync : hasAll database syncTables = true ∨ syncTables.any database.has = false
  registryVersions : forall version, version ∈ database.versions .schemaVersion -> version ≤ encryptionSchemaVersion
  ledgerVersions : forall version, version ∈ database.versions .appSchemaMigrations ->
    version ≤ applicationSchemaVersion
  marks : forall migration, migration ∈ migrations -> database.record migration.version = none ∨
    database.record migration.version = some (migration.mark digest)
  managed : database.has .appSchemaMigrations = true -> database.has .groups = true ∧
    database.has .folderMetadata = true ∧ hasAll database encryptionTables = true ∧
      database.has .fileActivity = true ∧ database.record baseline.version ≠ none
  syncMade : database.record syncMigration.version ≠ none -> hasAll database syncTables = true
  inventoryMade : database.record fileInventoryMigration.version ≠ none -> hasAll database inventoryTables = true
  ownerMade : database.record shareOwnerMigration.version ≠ none -> hasShareOwner database = true

/-- What an interrupted start may leave open. -/
structure Settled : Prop where
  pair : database.has .groups = database.has .folderMetadata
  sync : database.has .appSchemaMigrations = true -> hasAll database syncTables = true ->
    database.record syncMigration.version ≠ none
  inventory : database.has .appSchemaMigrations = true -> hasAll database inventoryTables = true ->
    database.record fileInventoryMigration.version ≠ none
  owner : database.has .appSchemaMigrations = true -> hasShareOwner database = true ->
    database.record shareOwnerMigration.version ≠ none

end Recognition

section Checks

variable {digest : String -> String} {database : Database}

theorem then_ok {β : Type} {first : Except String Unit} {next : Except String β} {result : β} :
    (first >>= fun _ => next) = .ok result ↔ first = .ok () ∧ next = .ok result := by
  cases first with
  | error error =>
    constructor
    · intro done
      cases done
    · rintro ⟨done, _⟩
      cases done
  | ok value => exact ⟨fun done => ⟨rfl, done⟩, fun both => both.2⟩

theorem require_ok {condition : Prop} [Decidable condition] {error : String} :
    require condition error = .ok () ↔ condition := by
  unfold require
  split
  next held => exact ⟨fun _ => held, fun _ => rfl⟩
  next failed =>
    constructor
    · intro done
      cases done
    · intro held
      exact (failed held).elim

variable {name : TableName}

theorem validateColumns_ok :
    validateColumns database name = .ok () ↔ requiredColumns name ⊆ database.columns name := by
  unfold validateColumns
  dsimp only
  rw [require_ok, List.filter_eq_nil_iff]
  simp only [decide_eq_true_eq, not_not]
  rfl

variable {names : List TableName}

theorem validateTables_ok {present : Bool} :
    validateTables database present names = .ok () ↔
      (present = true -> forall name, name ∈ names -> requiredColumns name ⊆ database.columns name) := by
  unfold validateTables
  cases present with
  | false => simp
  | true =>
    simp only [if_true, forall_const]
    induction names with
    | nil => exact iff_of_true rfl fun _ member => (List.not_mem_nil member).elim
    | cons name names ih =>
      change (validateColumns database name >>= fun _ => names.forM (validateColumns database)) = _ ↔ _
      rw [then_ok, validateColumns_ok, ih, List.forall_mem_cons]

theorem rejectNewerVersion_ok {supported : Int} {schema : String} (positive : 0 ≤ supported) :
    rejectNewerVersion database name supported schema = .ok () ↔
      forall version, version ∈ database.versions name -> version ≤ supported := by
  unfold rejectNewerVersion
  dsimp only
  rw [require_ok]
  cases top : (database.versions name).max? with
  | none =>
    rw [List.max?_eq_none_iff.mp top]
    simpa using positive
  | some version => 
      rw [Option.getD_some]
      exact List.max?_le_iff top

theorem requireWhole_ok {schema : String} :
    requireWhole database names schema = .ok () ↔ hasAll database names = true ∨ names.any database.has = false := by
  unfold requireWhole
  rw [require_ok]

theorem validateMigration_ok {migration : Migration} {present : Bool} {mismatch foreign : String} :
    validateMigration digest database migration present mismatch foreign = .ok () ↔
      (database.record migration.version).isSome = present ∧
        (database.record migration.version = none ∨
          database.record migration.version = some (migration.mark digest)) := by
  unfold validateMigration
  rw [then_ok, require_ok, require_ok]

theorem validateExistingBaseline_ok :
    validateExistingBaseline digest database = .ok () ↔
      (forall version, version ∈ database.versions .appSchemaMigrations -> version ≤ applicationSchemaVersion) ∧
        database.record baseline.version = some (baseline.mark digest) := by
  unfold validateExistingBaseline
  rw [then_ok, then_ok, rejectNewerVersion_ok (by decide), require_ok, require_ok]
  constructor
  · rintro ⟨versions, _, mark⟩
    exact ⟨versions, mark⟩
  · rintro ⟨versions, mark⟩
    exact ⟨versions, by rw [mark]; exact Option.some_ne_none _, mark⟩

theorem inspectLedger_ok {layout : SchemaLayout} :
    inspectLedger digest database = .ok layout ↔
      requiredColumns .appSchemaMigrations ⊆ database.columns .appSchemaMigrations ∧
      validateExistingBaseline digest database = .ok () ∧ validateSyncMigration digest database = .ok () ∧
      validateFileInventoryMigration digest database = .ok () ∧ validateShareOwnerMigration digest database = .ok () ∧
      (database.has .groups = true ∧ hasAll database encryptionTables = true ∧ database.has .fileActivity = true) ∧
      layout = .current := by
  unfold inspectLedger
  rw [then_ok, validateColumns_ok, then_ok, then_ok, then_ok, then_ok, then_ok, require_ok]
  constructor
  · rintro ⟨columns, first, sync, inventory, owner, tables, same⟩
    cases same
    exact ⟨columns, first, sync, inventory, owner, tables, rfl⟩
  · rintro ⟨columns, first, sync, inventory, owner, tables, rfl⟩
    exact ⟨columns, first, sync, inventory, owner, tables, rfl⟩

theorem validateEncryption_ok :
    validateEncryption database = .ok () ↔ (hasAll database encryptionTables = true ->
      (forall name, name ∈ encryptionTables -> requiredColumns name ⊆ database.columns name) ∧
        forall version, version ∈ database.versions .schemaVersion -> version ≤ encryptionSchemaVersion) := by
  unfold validateEncryption
  rw [then_ok, validateTables_ok]
  cases hasAll database encryptionTables with
  | false => simp
  | true =>
    rw [if_pos rfl, rejectNewerVersion_ok (by decide)]
    simp

/-- What is asked of the tables of a database, whatever its layout. -/
structure TablesFine (database : Database) : Prop where
  shared : database.has .sharedLinks = true
  sharedColumns : requiredColumns .sharedLinks ⊆ database.columns .sharedLinks
  pair : database.has .groups = database.has .folderMetadata
  folderColumns : database.has .groups = true ->
    forall name, name ∈ [TableName.groups, .folderMetadata] -> requiredColumns name ⊆ database.columns name
  encryption : hasAll database encryptionTables = true ∨ encryptionTables.any database.has = false
  encryptionFine : hasAll database encryptionTables = true ->
    (forall name, name ∈ encryptionTables -> requiredColumns name ⊆ database.columns name) ∧
      forall version, version ∈ database.versions .schemaVersion -> version ≤ encryptionSchemaVersion
  activityColumns : database.has .fileActivity = true ->
    forall name, name ∈ [TableName.fileActivity] -> requiredColumns name ⊆ database.columns name
  inventory : hasAll database inventoryTables = true ∨ inventoryTables.any database.has = false
  inventoryColumns : hasAll database inventoryTables = true ->
    forall name, name ∈ inventoryTables -> requiredColumns name ⊆ database.columns name
  sync : hasAll database syncTables = true ∨ syncTables.any database.has = false
  syncColumns : hasAll database syncTables = true ->
    forall name, name ∈ syncTables -> requiredColumns name ⊆ database.columns name

theorem inspectTables_ok {layout : SchemaLayout} :
    inspectTables digest database = .ok layout ↔ TablesFine database ∧
      (if database.has .appSchemaMigrations then inspectLedger digest database
        else .ok (unmanagedLayout database)) = .ok layout := by
  unfold inspectTables
  rw [then_ok, then_ok, then_ok, then_ok, then_ok, then_ok, then_ok, then_ok, then_ok, then_ok, then_ok, require_ok,
    require_ok, validateColumns_ok, validateTables_ok, validateTables_ok, validateTables_ok, validateTables_ok,
    requireWhole_ok, requireWhole_ok, requireWhole_ok, validateEncryption_ok]
  constructor
  · rintro ⟨one, two, three, four, five, six, seven, eight, nine, ten, eleven, last⟩
    exact ⟨⟨one, two, three, four, five, six, seven, eight, nine, ten, eleven⟩, last⟩
  · rintro ⟨⟨one, two, three, four, five, six, seven, eight, nine, ten, eleven⟩, last⟩
    exact ⟨one, two, three, four, five, six, seven, eight, nine, ten, eleven, last⟩

/-! ## Tables that are there -/

theorem has_of_mem {entry : TableName × Table} (member : entry ∈ database.tables) : database.has entry.1 = true := by
  unfold Database.has Database.find
  rw [Option.isSome_map, List.find?_isSome]
  exact ⟨entry, member, decide_eq_true rfl⟩

theorem mem_of_has (there : database.has name = true) :
    Exists fun entry => entry ∈ database.tables ∧ entry.1 = name := by
  unfold Database.has Database.find at there
  rw [Option.isSome_map, List.find?_isSome] at there
  rcases there with ⟨entry, member, same⟩
  exact ⟨entry, member, of_decide_eq_true same⟩

theorem no_tables (nothing : database.tables = []) (name : TableName) : database.has name = false := by
  unfold Database.has Database.find
  rw [nothing]
  rfl

theorem rows_absent (absent : database.has name = false) : database.rows name = [] := by
  unfold Database.rows
  unfold Database.has at absent
  rw [Option.isSome_eq_false_iff, Option.isNone_iff_eq_none] at absent
  rw [absent]
  rfl

theorem columns_absent (absent : database.has name = false) : database.columns name = [] := by
  unfold Database.columns
  unfold Database.has at absent
  rw [Option.isSome_eq_false_iff, Option.isNone_iff_eq_none] at absent
  rw [absent]
  rfl

theorem versions_absent (absent : database.has name = false) : database.versions name = [] := by
  unfold Database.versions
  rw [rows_absent absent]
  rfl

theorem record_absent (absent : database.has .appSchemaMigrations = false) (version : Int) :
    database.record version = none := by
  unfold Database.record
  rw [rows_absent absent]
  rfl

theorem hasAll_iff :
    hasAll database names = true ↔ forall name, name ∈ names -> database.has name = true := List.all_eq_true

/-- Of tables that are there together one shows all. -/
theorem whole_of_one
    (whole : hasAll database names = true ∨ names.any database.has = false) (member : name ∈ names)
    (there : database.has name = true) : hasAll database names = true := by
  rcases whole with all | never
  · exact all
  · rw [List.any_eq_false] at never
    exact (never name member there).elim

theorem empty_sane (nothing : database.tables = []) : Sane digest database ∧ Settled database := by
  have absent := no_tables nothing
  have never : forall names : List TableName, names.any database.has = false := by
    intro names
    rw [List.any_eq_false]
    exact fun name _ => by rw [absent name]; exact Bool.false_ne_true
  constructor
  · exact {
      known := fun name there => by rw [absent name] at there; cases there
      shared := fun name there => by rw [absent name] at there; cases there
      columns := fun name there => by rw [absent name] at there; cases there
      encryption := Or.inr (never _)
      inventory := Or.inr (never _)
      sync := Or.inr (never _)
      registryVersions := fun version member => by rw [versions_absent (absent _)] at member; cases member
      ledgerVersions := fun version member => by rw [versions_absent (absent _)] at member; cases member
      marks := fun migration _ => Or.inl (record_absent (absent _) _)
      managed := fun there => by rw [absent _] at there; cases there
      syncMade := fun made => (made (record_absent (absent _) _)).elim
      inventoryMade := fun made => (made (record_absent (absent _) _)).elim
      ownerMade := fun made => (made (record_absent (absent _) _)).elim }
  · exact {
      pair := by rw [absent, absent]
      sync := fun there => by rw [absent _] at there; cases there
      inventory := fun there => by rw [absent _] at there; cases there
      owner := fun there => by rw [absent _] at there; cases there }

/-- What is asked of the ledger, when there is one. -/
structure LedgerFine (digest : String -> String) (database : Database) : Prop where
  columns : requiredColumns .appSchemaMigrations ⊆ database.columns .appSchemaMigrations
  versions : forall version, version ∈ database.versions .appSchemaMigrations -> version ≤ applicationSchemaVersion
  first : database.record baseline.version = some (baseline.mark digest)
  sync : (database.record syncMigration.version).isSome = hasAll database syncTables
  syncMark : database.record syncMigration.version = none ∨
    database.record syncMigration.version = some (syncMigration.mark digest)
  inventory : (database.record fileInventoryMigration.version).isSome = hasAll database inventoryTables
  inventoryMark : database.record fileInventoryMigration.version = none ∨
    database.record fileInventoryMigration.version = some (fileInventoryMigration.mark digest)
  owner : (database.record shareOwnerMigration.version).isSome = hasShareOwner database
  ownerMark : database.record shareOwnerMigration.version = none ∨
    database.record shareOwnerMigration.version = some (shareOwnerMigration.mark digest)
  groups : database.has .groups = true
  encryption : hasAll database encryptionTables = true
  activity : database.has .fileActivity = true

theorem inspectLedger_fine {layout : SchemaLayout} :
    inspectLedger digest database = .ok layout ↔ LedgerFine digest database ∧ layout = .current := by
  rw [inspectLedger_ok, validateExistingBaseline_ok]
  unfold validateSyncMigration validateFileInventoryMigration validateShareOwnerMigration
  rw [validateMigration_ok, validateMigration_ok, validateMigration_ok]
  constructor
  · rintro ⟨one, ⟨two, three⟩, ⟨four, five⟩, ⟨six, seven⟩, ⟨eight, nine⟩, ⟨ten, eleven, twelve⟩, same⟩
    exact ⟨⟨one, two, three, four, five, six, seven, eight, nine, ten, eleven, twelve⟩, same⟩
  · rintro ⟨⟨one, two, three, four, five, six, seven, eight, nine, ten, eleven, twelve⟩, same⟩
    exact ⟨one, ⟨two, three⟩, ⟨four, five⟩, ⟨six, seven⟩, ⟨eight, nine⟩, ⟨ten, eleven, twelve⟩, same⟩

theorem columns_of_fine (fine : TablesFine database)
    (ledger : database.has .appSchemaMigrations = true ->
      requiredColumns .appSchemaMigrations ⊆ database.columns .appSchemaMigrations)
    (name : TableName) (there : database.has name = true) : requiredColumns name ⊆ database.columns name := by
  have registry : name ∈ encryptionTables -> requiredColumns name ⊆ database.columns name := fun member =>
    (fine.encryptionFine (whole_of_one fine.encryption member there)).1 name member
  have inventory : name ∈ inventoryTables -> requiredColumns name ⊆ database.columns name := fun member =>
    fine.inventoryColumns (whole_of_one fine.inventory member there) name member
  have sync : name ∈ syncTables -> requiredColumns name ⊆ database.columns name := fun member =>
    fine.syncColumns (whole_of_one fine.sync member there) name member
  cases name with
  | appSchemaMigrations => exact ledger there
  | encryptedFiles | encryptionProfiles | schemaVersion => exact registry (by decide)
  | fileInventory | fileInventoryState => exact inventory (by decide)
  | syncLog | syncPairs | syncSettings | syncState => exact sync (by decide)
  | fileActivity => exact fine.activityColumns there _ List.mem_cons_self
  | folderMetadata => exact fine.folderColumns (fine.pair.trans there) _ (by decide)
  | groups => exact fine.folderColumns there _ (by decide)
  | sharedLinks => exact fine.sharedColumns
  | other name => exact fun _ member => (List.not_mem_nil member).elim

/-- Whatever the preflight accepts is sane and settled. -/
theorem sane_of_fine (known : forall name, database.has name = true -> name.isKnown = true)
    (fine : TablesFine database)
    (ledger : database.has .appSchemaMigrations = true -> LedgerFine digest database) :
    Sane digest database ∧ Settled database := by
  have recorded : forall version, database.record version ≠ none -> database.has .appSchemaMigrations = true := by
    intro version made
    cases there : database.has .appSchemaMigrations with
    | true => rfl
    | false => exact (made (record_absent there version)).elim
  constructor
  · exact {
      known := known
      shared := fun _ _ => fine.shared
      columns := columns_of_fine fine fun there => (ledger there).columns
      encryption := fine.encryption
      inventory := fine.inventory
      sync := fine.sync
      registryVersions := by
        rcases fine.encryption with all | never
        · exact (fine.encryptionFine all).2
        · intro version member
          have absent : database.has .schemaVersion = false := by
            rw [List.any_eq_false] at never
            exact Bool.eq_false_iff.mpr (never .schemaVersion (by decide))
          rw [versions_absent absent] at member
          cases member
      ledgerVersions := by
        cases there : database.has .appSchemaMigrations with
        | true => exact (ledger there).versions
        | false =>
          intro version member
          rw [versions_absent there] at member
          cases member
      marks := by
        intro migration member
        cases there : database.has .appSchemaMigrations with
        | false => exact Or.inl (record_absent there _)
        | true =>
          have held := ledger there
          rcases List.mem_cons.mp member with rfl | member
          · exact Or.inr held.first
          · rcases List.mem_cons.mp member with rfl | member
            · exact held.syncMark
            · rcases List.mem_cons.mp member with rfl | member
              · exact held.inventoryMark
              · cases List.mem_singleton.mp member
                exact held.ownerMark
      managed := by
        intro there
        have held := ledger there
        refine ⟨held.groups, fine.pair ▸ held.groups, held.encryption, held.activity, ?_⟩
        rw [held.first]
        exact Option.some_ne_none _
      syncMade := fun made =>
        (ledger (recorded _ made)).sync ▸ Option.isSome_iff_ne_none.mpr made
      inventoryMade := fun made =>
        (ledger (recorded _ made)).inventory ▸ Option.isSome_iff_ne_none.mpr made
      ownerMade := fun made =>
        (ledger (recorded _ made)).owner ▸ Option.isSome_iff_ne_none.mpr made }
  · exact {
      pair := fine.pair
      sync := fun there all => Option.isSome_iff_ne_none.mp ((ledger there).sync.trans all)
      inventory := fun there all => Option.isSome_iff_ne_none.mp ((ledger there).inventory.trans all)
      owner := fun there has => Option.isSome_iff_ne_none.mp ((ledger there).owner.trans has) }

theorem recorded_iff {migration : Migration} {present : Bool}
    (made : database.record migration.version ≠ none -> present = true)
    (settled : present = true -> database.record migration.version ≠ none) :
    (database.record migration.version).isSome = present := by
  cases recorded : database.record migration.version with
  | none =>
    cases present with
    | false => rfl
    | true => exact (settled rfl recorded).elim
  | some mark => exact (made (by rw [recorded]; exact Option.some_ne_none _)).symm

theorem ledger_of_sane (sane : Sane digest database) (settled : Settled database)
    (there : database.has .appSchemaMigrations = true) : LedgerFine digest database := by
  rcases sane.managed there with ⟨groups, _, encryption, activity, first⟩
  exact {
    columns := sane.columns _ there
    versions := sane.ledgerVersions
    first := (sane.marks baseline (by simp [migrations])).resolve_left first
    sync := recorded_iff sane.syncMade (settled.sync there)
    syncMark := sane.marks syncMigration (by simp [migrations])
    inventory := recorded_iff sane.inventoryMade (settled.inventory there)
    inventoryMark := sane.marks fileInventoryMigration (by simp [migrations])
    owner := recorded_iff sane.ownerMade (settled.owner there)
    ownerMark := sane.marks shareOwnerMigration (by simp [migrations])
    groups := groups
    encryption := encryption
    activity := activity }

theorem fine_of_sane (sane : Sane digest database) (settled : Settled database)
    (there : database.has .sharedLinks = true) : TablesFine database where
  shared := there
  sharedColumns := sane.columns _ there
  pair := settled.pair
  folderColumns := by
    intro groups name member
    apply sane.columns
    rcases List.mem_cons.mp member with rfl | member
    · exact groups
    · cases List.mem_singleton.mp member
      exact settled.pair ▸ groups
  encryption := sane.encryption
  encryptionFine := fun all =>
    ⟨fun name member => sane.columns name (hasAll_iff.mp all name member), sane.registryVersions⟩
  activityColumns := by
    intro activity name member
    cases List.mem_singleton.mp member
    exact sane.columns _ activity
  inventory := sane.inventory
  inventoryColumns := fun all name member => sane.columns name (hasAll_iff.mp all name member)
  sync := sane.sync
  syncColumns := fun all name member => sane.columns name (hasAll_iff.mp all name member)

theorem known_iff : (database.tables.map Prod.fst).filter (fun name => !name.isKnown) = [] ↔
    forall name, database.has name = true -> name.isKnown = true := by
  rw [List.filter_eq_nil_iff]
  constructor
  · intro every name there
    rcases mem_of_has there with ⟨entry, member, rfl⟩
    simpa using every entry.1 (List.mem_map_of_mem member)
  · intro known name member
    rcases List.mem_map.mp member with ⟨entry, among, rfl⟩
    simpa using known entry.1 (has_of_mem among)

/-- The preflight accepts the databases that are sane and settled. -/
theorem inspectSchema_iff : (Exists fun layout => inspectSchema digest database = .ok layout) ↔
    Sane digest database ∧ Settled database := by
  unfold inspectSchema
  dsimp only
  simp only [then_ok, require_ok, known_iff]
  constructor
  · rintro ⟨layout, known, done⟩
    split at done
    next nothing => exact empty_sane nothing
    · rcases inspectTables_ok.mp done with ⟨fine, last⟩
      refine sane_of_fine known fine fun there => ?_
      rw [if_pos there] at last
      exact (inspectLedger_fine.mp last).1
  · rintro ⟨sane, settled⟩
    by_cases nothing : database.tables = []
    · exact ⟨.empty, sane.known, by rw [if_pos nothing]⟩
    · rcases List.exists_mem_of_ne_nil _ nothing with ⟨entry, member⟩
      have fine := fine_of_sane sane settled (sane.shared _ (has_of_mem member))
      rw [if_neg nothing]
      cases there : database.has .appSchemaMigrations with
      | true =>
        refine ⟨.current, sane.known, inspectTables_ok.mpr ⟨fine, ?_⟩⟩
        rw [if_pos there]
        exact inspectLedger_fine.mpr ⟨ledger_of_sane sane settled there, rfl⟩
      | false =>
        refine ⟨unmanagedLayout database, sane.known, inspectTables_ok.mpr ⟨fine, ?_⟩⟩
        rw [if_neg (Bool.eq_false_iff.mp there)]

/-- With the tables that the baseline asks for the layout is the present one. -/
theorem inspectSchema_current (sane : Sane digest database) (settled : Settled database)
    (shared : database.has .sharedLinks = true) (encryption : hasAll database encryptionTables = true)
    (activity : database.has .fileActivity = true) : inspectSchema digest database = .ok .current := by
  unfold inspectSchema
  dsimp only
  rw [then_ok, require_ok, known_iff]
  rcases mem_of_has shared with ⟨entry, member, _⟩
  refine ⟨sane.known, ?_⟩
  rw [if_neg (List.ne_nil_of_mem member), inspectTables_ok]
  refine ⟨fine_of_sane sane settled shared, ?_⟩
  split
  next there => exact inspectLedger_fine.mpr ⟨ledger_of_sane sane settled there, rfl⟩
  · unfold unmanagedLayout
    rw [encryption, activity]
    cases database.has .groups <;> rfl

end Checks

end Upgrade
end TelegramDrive
