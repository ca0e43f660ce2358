import Mathlib.Data.List.Basic

namespace TelegramDrive
namespace Upgrade

/-!
# The database and its layouts

A database has tables, in the order of their names, each with the names of its columns and
its rows, and some indexes.
The preflight reads the names of the tables and of their columns, and the records of the
migrations that were made; from these it says which layout the database has, or why it
is to be left alone.

Of the indexes those are kept that the upgrade makes.  The integrity check of SQLite has
no part in this model: what it reads is sound.
-/

inductive TableName
  | appSchemaMigrations
  | encryptedFiles
  | encryptionProfiles
  | fileActivity
  | fileInventory
  | fileInventoryState
  | folderMetadata
  | groups
  | schemaVersion
  | sharedLinks
  | syncLog
  | syncPairs
  | syncSettings
  | syncState
  | other (name : String)
deriving DecidableEq

def TableName.text : TableName -> String
  | .appSchemaMigrations => "app_schema_migrations"
  | .encryptedFiles => "encrypted_files"
  | .encryptionProfiles => "encryption_profiles"
  | .fileActivity => "file_activity"
  | .fileInventory => "file_inventory"
  | .fileInventoryState => "file_inventory_state"
  | .folderMetadata => "folder_metadata"
  | .groups => "groups"
  | .schemaVersion => "schema_version"
  | .sharedLinks => "shared_links"
  | .syncLog => "sync_log"
  | .syncPairs => "sync_pairs"
  | .syncSettings => "sync_settings"
  | .syncState => "sync_state"
  | .other name => name

/-- `KNOWN_TABLES` -/
def TableName.isKnown : TableName -> Bool
  | .other _ => false
  | _ => true

inductive IndexName
  | fileActivityRecent
  | fileActivityFavorite
  | fileActivityPinned
  | syncStatePair
  | syncLogCreated
  | fileInventoryFolder
  | sharedLinksOwner
deriving DecidableEq

inductive Value
  | null
  | integer (number : Int)
  | real (bits : BitVec 64)
  | text (content : String)
  | blob (bytes : List UInt8)
deriving DecidableEq

/-- A row, as the values of its columns. -/
abbrev Row : Type := List (String × Value)

def Row.get (row : Row) (column : String) : Value :=
  ((row.find? fun cell => decide (cell.1 = column)).map Prod.snd).getD .null

structure Table where
  columns : List String
  rows : List Row
deriving DecidableEq

structure Database where
  tables : List (TableName × Table)
  indexes : List IndexName
deriving DecidableEq

namespace Database

def find (database : Database) (name : TableName) : Option Table :=
  (database.tables.find? fun entry => decide (entry.1 = name)).map Prod.snd

/-- `table_exists` -/
def has (database : Database) (name : TableName) : Bool := (database.find name).isSome

/-- `table_columns` -/
def columns (database : Database) (name : TableName) : List String := ((database.find name).map Table.columns).getD []

def rows (database : Database) (name : TableName) : List Row := ((database.find name).map Table.rows).getD []

end Database

def applicationSchemaVersion : Int := 4

def encryptionSchemaVersion : Int := 3

/-! ## Columns -/

def sharedLinkColumns : List String :=
  ["id", "folder_id", "message_id", "file_name", "file_size", "password_hash", "password_salt", "expires_at",
    "revoked", "created_at"]

def groupColumns : List String := ["id", "name", "color_hex", "display_order"]

def folderMetadataColumns : List String :=
  ["channel_id", "name", "username", "is_public", "display_order", "group_id"]

def fileActivityColumns : List String :=
  ["folder_key", "folder_id", "message_id", "file_name", "file_size", "mime_type", "file_ext", "created_at",
    "encryption_state", "last_opened_at", "open_count", "is_favorite", "is_pinned"]

def fileInventoryColumns : List String :=
  ["folder_key", "folder_id", "message_id", "file_name", "file_size", "mime_type", "file_ext", "created_at",
    "icon_type", "encryption_state", "last_seen_scan", "updated_at"]

def fileInventoryStateColumns : List String := ["folder_key", "completed_at", "file_count"]

def encryptedFileBaseColumns : List String :=
  ["folder_key", "message_id", "file_uuid", "envelope_version", "cipher_suite", "ciphertext_size", "remote_name",
    "key_profile_id", "header_blob", "header_sha256", "record_state", "created_at", "last_verified_at"]

def encryptionProfileColumns : List String :=
  ["id", "label", "kind", "vault_locator", "created_at", "updated_at", "is_deleted"]

def encryptionVersionColumns : List String := ["version", "applied_at"]

def migrationLedgerColumns : List String := ["version", "name", "checksum", "applied_at", "app_version"]

def syncSettingColumns : List String := ["key", "value"]

def syncPairColumns : List String :=
  ["id", "local_path", "channel_id", "folder_key", "label", "sync_direction", "is_active", "created_at"]

def syncStateColumns : List String :=
  ["id", "pair_id", "relative_path", "local_hash", "remote_hash", "file_size", "local_mtime", "remote_date",
    "message_id", "sync_status"]

def syncLogColumns : List String := ["id", "pair_id", "action", "relative_path", "detail", "created_at"]

/-- The columns that the preflight asks of a table. -/
def requiredColumns : TableName -> List String
  | .appSchemaMigrations => migrationLedgerColumns
  | .encryptedFiles => encryptedFileBaseColumns
  | .encryptionProfiles => encryptionProfileColumns
  | .fileActivity => fileActivityColumns
  | .fileInventory => fileInventoryColumns
  | .fileInventoryState => fileInventoryStateColumns
  | .folderMetadata => folderMetadataColumns
  | .groups => groupColumns
  | .schemaVersion => encryptionVersionColumns
  | .sharedLinks => sharedLinkColumns
  | .syncLog => syncLogColumns
  | .syncPairs => syncPairColumns
  | .syncSettings => syncSettingColumns
  | .syncState => syncStateColumns
  | .other _ => []

/-! ## Migrations and their records -/

/-- A migration as its record names it. -/
structure Migration where
  version : Int
  name : String
  definition : String

def baseline : Migration :=
  ⟨1, "baseline_known_schema",
    "1:baseline_known_schema:app_schema_migrations(version,name,checksum,applied_at,app_version)"⟩

def syncMigration : Migration :=
  ⟨2, "telegram_folder_sync",
    "2:telegram_folder_sync:sync_settings(key,value);sync_pairs(id,local_path,channel_id,folder_key,label,sync_direction,is_active,created_at);sync_state(id,pair_id,relative_path,local_hash,remote_hash,file_size,local_mtime,remote_date,message_id,sync_status);sync_log(id,pair_id,action,relative_path,detail,created_at)"⟩

def fileInventoryMigration : Migration :=
  ⟨3, "telegram_file_inventory",
    "3:telegram_file_inventory:file_inventory(folder_key,folder_id,message_id,file_name,file_size,mime_type,file_ext,created_at,icon_type,encryption_state,last_seen_scan,updated_at);file_inventory_state(folder_key,completed_at,file_count)"⟩

def shareOwnerMigration : Migration :=
  ⟨4, "account_owned_share_links",
    "4:account_owned_share_links:shared_links(owner_id INTEGER NULL);legacy_unowned_links_quarantined"⟩

/-- The record of a version: its name and its checksum. -/
def Database.record (database : Database) (version : Int) : Option (Value × Value) :=
  ((database.rows .appSchemaMigrations).find? fun row => decide (row.get "version" = .integer version)).map
    fun row => (row.get "name", row.get "checksum")

/-- `SELECT MAX(version)`, where every version is an integer; none when there is no row. -/
def Database.versions (database : Database) (name : TableName) : List Int :=
  (database.rows name).filterMap fun row =>
    match row.get "version" with
    | .integer version => some version
    | _ => none

inductive SchemaLayout
  | empty
  | sharingOnly
  | folderMetadata
  | encryptionRegistry
  | fileActivity
  | current
deriving DecidableEq

section Inspection

variable (digest : String -> String) (database : Database)

/-- The record that a migration leaves. -/
def Migration.mark (migration : Migration) : Value × Value := (.text migration.name, .text (digest migration.definition))

def require (condition : Prop) [Decidable condition] (error : String) : Except String Unit :=
  if condition then .ok () else .error error

/-- `validate_columns` -/
def validateColumns (name : TableName) : Except String Unit :=
  let missing := (requiredColumns name).filter fun column => decide (column ∉ database.columns name)
  require (missing = [])
    ("Table '" ++ name.text ++ "' is missing required columns: " ++ ", ".intercalate missing ++ ". No changes were made.")

/-- The columns of tables, when they are there. -/
def validateTables (present : Bool) (names : List TableName) : Except String Unit :=
  if present then names.forM (validateColumns database) else .ok ()

/-- `reject_newer_version` -/
def rejectNewerVersion (name : TableName) (supported : Int) (schema : String) : Except String Unit :=
  let version := (database.versions name).max?.getD 0
  require (version ≤ supported)
    ("Database uses " ++ schema ++ " schema version " ++ toString version ++ ", but this build supports up to " ++
      toString supported ++ ". No changes were made.")

/-- Whether tables that belong together are all there. -/
def hasAll (names : List TableName) : Bool := names.all database.has

def encryptionTables : List TableName := [.encryptedFiles, .encryptionProfiles, .schemaVersion]

def inventoryTables : List TableName := [.fileInventory, .fileInventoryState]

def syncTables : List TableName := [.syncSettings, .syncPairs, .syncState, .syncLog]

/-- What the preflight asks of the tables of the encryption registry. -/
def validateEncryption : Except String Unit := do
  validateTables database (hasAll database encryptionTables) encryptionTables
  if hasAll database encryptionTables then
    rejectNewerVersion database .schemaVersion encryptionSchemaVersion "encryption"
  else .ok ()

/-- Tables that belong together are all there or none of them is. -/
def requireWhole (names : List TableName) (schema : String) : Except String Unit :=
  require (hasAll database names = true ∨ names.any database.has = false)
    ("Database has a partial " ++ schema ++ ". No changes were made.")

/-- `validate_existing_baseline` -/
def validateExistingBaseline : Except String Unit := do
  rejectNewerVersion database .appSchemaMigrations applicationSchemaVersion "application"
  require (database.record baseline.version ≠ none)
    "Application migration ledger has no recognized baseline. No changes were made."
  require (database.record baseline.version = some (baseline.mark digest))
    "Application migration baseline does not match this build. No changes were made."

/-- A migration is recorded when its tables or columns are there, and with its own mark. -/
def validateMigration (migration : Migration) (present : Bool) (mismatch foreign : String) : Except String Unit := do
  require ((database.record migration.version).isSome = present) mismatch
  require (database.record migration.version = none ∨ database.record migration.version = some (migration.mark digest))
    foreign

/-- `validate_sync_migration` -/
def validateSyncMigration : Except String Unit :=
  validateMigration digest database syncMigration (hasAll database syncTables)
    "Folder-sync tables and their migration record do not match. No changes were made."
    "Folder-sync migration does not match this build. No changes were made."

/-- `validate_file_inventory_migration` -/
def validateFileInventoryMigration : Except String Unit :=
  validateMigration digest database fileInventoryMigration (hasAll database inventoryTables)
    "File-inventory tables and their migration record do not match. No changes were made."
    "File-inventory migration does not match this build. No changes were made."

/-- `has_share_owner` -/
def hasShareOwner : Bool := decide ("owner_id" ∈ database.columns .sharedLinks)

/-- `validate_share_owner_migration` -/
def validateShareOwnerMigration : Except String Unit :=
  validateMigration digest database shareOwnerMigration (hasShareOwner database)
    "Share ownership schema and migration record do not match. No changes were made."
    "Share ownership migration does not match this build. No changes were made."

/-- What the preflight asks of a database with a ledger. -/
def inspectLedger : Except String SchemaLayout := do
  validateColumns database .appSchemaMigrations
  validateExistingBaseline digest database
  validateSyncMigration digest database
  validateFileInventoryMigration digest database
  validateShareOwnerMigration digest database
  require (database.has .groups ∧ hasAll database encryptionTables ∧ database.has .fileActivity)
    "Managed database is missing tables required by its recorded schema version. No changes were made."
  return .current

/-- The layout of a database without a ledger. -/
def unmanagedLayout : SchemaLayout :=
  match database.has .groups, hasAll database encryptionTables, database.has .fileActivity with
  | false, false, false => .sharingOnly
  | true, false, false => .folderMetadata
  | _, true, false => .encryptionRegistry
  | _, false, true => .fileActivity
  | _, true, true => .current

/-- What the preflight asks of a database with tables. -/
def inspectTables : Except String SchemaLayout := do
  require (database.has .sharedLinks)
    ("Database is missing required table '" ++ TableName.sharedLinks.text ++ "'. No changes were made.")
  validateColumns database .sharedLinks
  require (database.has .groups = database.has .folderMetadata)
    "Database has a partial folder-metadata schema. No changes were made."
  validateTables database (database.has .groups) [.groups, .folderMetadata]
  requireWhole database encryptionTables "encryption registry"
  validateEncryption database
  validateTables database (database.has .fileActivity) [.fileActivity]
  requireWhole database inventoryTables "file-inventory schema"
  validateTables database (hasAll database inventoryTables) inventoryTables
  requireWhole database syncTables "folder-sync schema"
  validateTables database (hasAll database syncTables) syncTables
  if database.has .appSchemaMigrations then inspectLedger digest database else .ok (unmanagedLayout database)

/-- `inspect_schema` -/
def inspectSchema : Except String SchemaLayout := do
  let unknown := (database.tables.map Prod.fst).filter fun name => !name.isKnown
  require (unknown = [])
    ("Database contains tables from an unknown schema: " ++ ", ".intercalate (unknown.map TableName.text) ++
      ". No changes were made.")
  if database.tables = [] then .ok .empty else inspectTables digest database

end Inspection

end Upgrade
end TelegramDrive
