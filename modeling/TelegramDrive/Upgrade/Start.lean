import TelegramDrive.Library.Machine
import TelegramDrive.Library.Transactions
import TelegramDrive.Upgrade.Changes

namespace TelegramDrive
namespace Upgrade

open Disturbance Transactions

/-!
# Initializing the database

A start inspects the database, keeps a copy of one that has no ledger, and brings it to
the present schema by statements.  Those that make the first tables stand outside of any
transaction.  Most failures are answered with further attempts.  When the start ends, in
whatever way, an open transaction is gone.

What a look at the database reads from several statements is read at once.
-/

/-- The file of the recovery copy.  Where it is there it is a database or something else. -/
inductive File
  | absent
  | copy (contents : Database)
  | unreadable
deriving DecidableEq

abbrev Place : Type := World Database File

abbrev Sql (α : Type) : Type := Statements Database File File α

/-- What is compiled in: the version of the app, and the checksum of a definition. -/
structure Build where
  digest : String -> String
  appVersion : String

def maxDbInitRetries : Nat := 5

/-- `retry_initialization_step` -/
def retryInitializationStep {α : Type} (stepName : String) (program : Sql α) : Sql α :=
  (program.attempts maxDbInitRetries "").handle fun error =>
    Program.fail ("Failed to complete " ++ stepName ++ " after " ++ toString maxDbInitRetries ++ " attempts: " ++ error)

/-- `recovery_note` -/
def recoveryNote (backup : Bool) : String :=
  if backup then " A verified recovery backup was retained in the application data directory as " ++
    "'shares.db.pre-migration-v4'." else ""

/-- The loops of `init_db_at`, whose errors name the copy. -/
def retryMigration (backup : Bool) (stepName : String) (program : Sql Unit) : Sql Unit :=
  (program.attempts maxDbInitRetries "").handle fun error =>
    Program.fail ("Failed to " ++ stepName ++ " after " ++ toString maxDbInitRetries ++ " attempts: " ++ error ++
      recoveryNote backup)

/-- A step that neither reads nor changes what is in the database. -/
def touch : Sql Unit := statement fun world => (.done (), world)

/-- `sqlite::open`, with its attempts, and `set_busy_timeout` -/
def openDatabase : Sql Unit := do
  (touch.attempts maxDbInitRetries "").handle fun error =>
    Program.fail ("Failed to open SQLite database after " ++ toString maxDbInitRetries ++ " attempts: " ++ error)
  touch.handle fun error => Program.fail ("Could not configure database busy timeout: " ++ error)

section Build

variable (build : Build)

/-! ## The recovery copy -/

/-- `validate_backup`, and the looks at what kind of file it is -/
def validateBackup : File -> Except String Unit
  | .absent => .error "Could not inspect migration backup"
  | .unreadable => .error "Migration backup verification failed"
  | .copy contents =>
    match inspectSchema build.digest contents with
    | .ok _ => .ok ()
    | .error error => .error ("Migration backup has an unrecognized schema: " ++ error)

/-- `backup_path.exists()` -/
def backupExists : Sql Bool := statement fun world => (.done (decide (world.beside ≠ .absent)), world)

def checkBackup : Sql Bool := statement fun world =>
  match validateBackup build world.beside with
  | .ok _ => (.done true, world)
  | .error error => (.failed error, world)

/-- `VACUUM INTO`: where it is disturbed something may be left of the file. -/
def vacuumInto : Sql Unit := Program.step fun fault world =>
  match fault with
  | none => (.done (), { world with
      beside := .copy world.view })
  | some (.fails undone left) => (.failed "Failed to create database backup", { world.undo undone with
      beside := left })
  | some (.stops left) => (.stopped, { world with
      beside := left })

def makeBackup : Sql Bool := do
  let already <- backupExists
  if already then checkBackup build
  else do
    vacuumInto
    touch
    checkBackup build

/-- `prepare_baseline_backup`: whether there is a copy. -/
def prepareBaselineBackup (sourceLayout : SchemaLayout) : Sql Bool :=
  if sourceLayout = .empty then pure false
  else do
    let managed <- read fun database => .ok (database.has .appSchemaMigrations)
    if managed then pure false else makeBackup build

/-! ## The first tables -/

/-- The statements that make the first tables, each of which stands for itself. -/
def baseTables : List (Database -> Except String Database) := [
  Database.createIfAbsent .sharedLinks sharedLinkColumns,
  Database.createIfAbsent .groups groupColumns,
  Database.createIfAbsent .folderMetadata folderMetadataColumns,
  Database.createIfAbsent .fileActivity fileActivityColumns,
  Database.createIndexIfAbsent .fileActivityRecent .fileActivity,
  Database.createIndexIfAbsent .fileActivityFavorite .fileActivity,
  Database.createIndexIfAbsent .fileActivityPinned .fileActivity]

/-! ## The encryption registry -/

def encryptedFileColumns : List String :=
  ["folder_key", "message_id", "file_uuid", "envelope_version", "cipher_suite", "ciphertext_size", "plaintext_size",
    "remote_name", "key_profile_id", "protection_mode", "metadata_protected", "header_blob", "header_sha256",
    "record_state", "reconciliation_state", "created_at", "last_verified_at"]

def registryTables : List (Database -> Except String Database) := [
  Database.createIfAbsent .encryptedFiles encryptedFileColumns,
  Database.createIfAbsent .encryptionProfiles encryptionProfileColumns,
  Database.createIfAbsent .schemaVersion encryptionVersionColumns]

/-- The columns that an older registry lacks, with their defaults. -/
def additions : List (String × Value) :=
  [("plaintext_size", .null), ("protection_mode", .text "vault"), ("metadata_protected", .integer 0),
    ("reconciliation_state", .text "ok")]

/-- A column is added unless `encryption_column_exists`. -/
def addMissing (addition : String × Value) : Sql Unit := do
  let present <- read fun database => .ok (decide (addition.1 ∈ database.columns .encryptedFiles))
  if present then pure () else write (Database.addColumn .encryptedFiles addition.1 addition.2)

def schemaVersionRow (now : Int) : Row := [("version", .integer 3), ("applied_at", .integer now)]

/-- `run_encryption_migration` -/
def runEncryptionMigration (now : Int) : Sql Unit := do
  beginTransaction
  rollingBack do
    script registryTables
    Program.each (additions.map addMissing)
    write (Database.insertOrIgnore .schemaVersion "version" (schemaVersionRow now))
  commit

/-! ## Migrations with a record -/

def ledgerRow (migration : Migration) (now : Int) : Row := [
  ("version", .integer migration.version),
  ("name", (migration.mark build.digest).1),
  ("checksum", (migration.mark build.digest).2),
  ("applied_at", .integer now),
  ("app_version", .text build.appVersion)]

def baselineChanges (now : Int) : List (Database -> Except String Database) := [
  Database.create .appSchemaMigrations migrationLedgerColumns,
  Database.insert .appSchemaMigrations "version" (ledgerRow build baseline now)]

def recordBaseline (now : Int) : Sql Unit := do
  beginTransaction
  rollingBack (script (baselineChanges build now))
  commit
  touch

/-- `install_baseline` -/
def installBaseline (now : Int) : Sql Unit := do
  let layout <- read (inspectSchema build.digest)
  if layout = .current then do
    let managed <- read fun database => .ok (database.has .appSchemaMigrations)
    if managed then pure () else recordBaseline build now
  else Program.fail "Refusing to baseline incomplete database layout"

/-- One execution of a script with its own transaction, which a failure leaves open. -/
def transactionScript (changes : List (Database -> Except String Database)) : Sql Unit := do
  beginTransaction
  script changes
  commit

def syncSetting (key value : String) : Database -> Except String Database :=
  Database.insertOrIgnore .syncSettings "key" [("key", .text key), ("value", .text value)]

def syncChanges (now : Int) : List (Database -> Except String Database) := [
  Database.createIfAbsent .syncSettings syncSettingColumns,
  Database.createIfAbsent .syncPairs syncPairColumns,
  Database.createIfAbsent .syncState syncStateColumns,
  Database.createIfAbsent .syncLog syncLogColumns,
  Database.createIndexIfAbsent .syncStatePair .syncState,
  Database.createIndexIfAbsent .syncLogCreated .syncLog,
  syncSetting "sync_enabled" "false",
  syncSetting "sync_debounce_ms" "3000",
  syncSetting "sync_encryption" "inherit",
  Database.insertOrIgnore .appSchemaMigrations "version" (ledgerRow build syncMigration now)]

def inventoryChanges (now : Int) : List (Database -> Except String Database) := [
  Database.createIfAbsent .fileInventory fileInventoryColumns,
  Database.createIndexIfAbsent .fileInventoryFolder .fileInventory,
  Database.createIfAbsent .fileInventoryState fileInventoryStateColumns,
  Database.insertOrIgnore .appSchemaMigrations "version" (ledgerRow build fileInventoryMigration now)]

def ownershipChanges (now : Int) : List (Database -> Except String Database) := [
  Database.addColumn .sharedLinks "owner_id" .null,
  Database.createIndex .sharedLinksOwner .sharedLinks,
  Database.insert .appSchemaMigrations "version" (ledgerRow build shareOwnerMigration now)]

def addShareOwner (now : Int) : Sql Unit := do
  beginTransaction
  rollingBack do
    script (ownershipChanges build now)
    commit

/-- `install_share_ownership` -/
def installShareOwnership (now : Int) : Sql Unit := do
  let _ <- read (validateShareOwnerMigration build.digest)
  let present <- read fun database => .ok (hasShareOwner database)
  if present then pure () else addShareOwner build now

/-! ## The whole start -/

/-- `init_db_at`, with the readings of the clock for the schema version of the registry and
for each record. -/
def initDbAt (clock : Int -> Int) : Sql Unit := do
  openDatabase
  let sourceLayout <- retryInitializationStep "database preflight" (read (inspectSchema build.digest))
  let backup <- retryInitializationStep "database backup preparation" (prepareBaselineBackup build sourceLayout)
  retryInitializationStep "database WAL configuration" touch
  retryMigration backup "run SQLite migration" (script baseTables)
  retryMigration backup "run encryption migration" (runEncryptionMigration (clock 0))
  retryMigration backup "install database migration baseline" (installBaseline build (clock 1))
  retryInitializationStep "folder sync migration" (transactionScript (syncChanges build (clock 2)))
  retryInitializationStep "file inventory migration" (transactionScript (inventoryChanges build (clock 3)))
  retryInitializationStep "share ownership migration" (installShareOwnership build (clock 4))

/-- One start of the app: its clock and what disturbs it. -/
structure Attempt where
  clock : Int -> Int
  faults : List (Option (Fault File))

/-- A start, and how it ends.  The connection is closed behind it. -/
def start (attempt : Attempt) (place : Place) : Outcome Unit × Place :=
  ((initDbAt build attempt.clock place attempt.faults).1, { (initDbAt build attempt.clock place attempt.faults).2.1 with
    working := none })

/-- The machine of starts. -/
def machine : Machine Place Attempt := ⟨fun place attempt => some (start build attempt place).2⟩

end Build

end Upgrade
end TelegramDrive
