import Mathlib.Data.List.Nodup
import TelegramDrive.Upgrade.Recognised
import TelegramDrive.Upgrade.Start

namespace TelegramDrive
namespace Upgrade

/-!
# How statements make a database grow

For every statement of a start it is said which tables, which records and which owner
column it may bring.  All else stays as it was: what is there is kept, and what is not
there does not come.
-/

/-! ## What is read after a change -/

namespace Database

variable {database : Database} {name : TableName}

theorem has_add (absent : database.has name = false) (columns : List String) (other : TableName) :
    (database.add name columns).has other = (decide (other = name) || database.has other) := by
  unfold has
  rw [find_add absent]
  by_cases same : other = name
  · rw [if_pos same, decide_eq_true same]
    rfl
  · rw [if_neg same, decide_eq_false same]
    rfl

theorem columns_add (absent : database.has name = false) (columns : List String) (other : TableName) :
    (database.add name columns).columns other = if other = name then columns else database.columns other := by
  unfold Database.columns
  rw [find_add absent]
  split <;> rfl

theorem rows_add (absent : database.has name = false) (columns : List String) (other : TableName) :
    (database.add name columns).rows other = database.rows other := by
  by_cases same : other = name
  · subst same
    rw [rows_absent absent]
    unfold rows
    rw [find_add absent, if_pos rfl]
    rfl
  · unfold rows
    rw [find_add absent, if_neg same]

theorem has_update (change : Table -> Table) (other : TableName) :
    (database.update name change).has other = database.has other := by
  unfold has
  rw [find_update]
  split
  · exact Option.isSome_map
  · rfl

theorem columns_insert (row : Row) (other : TableName) :
    (database.update name (Table.insert row)).columns other = database.columns other := by
  unfold columns
  rw [find_update]
  split
  · cases database.find other <;> rfl
  · rfl

theorem rows_insert (there : database.has name = true) (row : Row) (other : TableName) :
    (database.update name (Table.insert row)).rows other =
      if other = name then database.rows other ++ [row] else database.rows other := by
  unfold rows
  rw [find_update]
  split
  next same =>
    subst same
    rcases Option.isSome_iff_exists.mp there with ⟨table, found⟩
    rw [found]
    rfl
  · rfl

theorem columns_addColumn (there : database.has name = true) (column : String) (default : Value) (other : TableName) :
    (database.update name (Table.addColumn column default)).columns other =
      if other = name then database.columns other ++ [column] else database.columns other := by
  unfold columns
  rw [find_update]
  split
  next same =>
    subst same
    rcases Option.isSome_iff_exists.mp there with ⟨table, found⟩
    rw [found]
    rfl
  · rfl

theorem rows_addColumn (column : String) (default : Value) {other : TableName} (different : other ≠ name) :
    (database.update name (Table.addColumn column default)).rows other = database.rows other := by
  unfold rows
  rw [find_update, if_neg different]

theorem record_congr {later : Database} (same : later.rows .appSchemaMigrations = database.rows .appSchemaMigrations)
    (version : Int) : later.record version = database.record version := by
  unfold record
  rw [same]

theorem versions_congr {later : Database} (same : later.rows name = database.rows name) :
    later.versions name = database.versions name := by
  unfold versions
  rw [same]

end Database

/-- What statements may bring: tables, records, and the column of the owner. -/
structure Scope where
  tables : List TableName
  versions : List Int
  owner : Bool

/-- What holds of the tables that are there, one by one. -/
structure Content (digest : String -> String) (database : Database) : Prop where
  known : forall name, database.has name = true -> name.isKnown = true
  columns : forall name, database.has name = true -> requiredColumns name ⊆ database.columns name
  registryVersions : forall version, version ∈ database.versions .schemaVersion -> version ≤ encryptionSchemaVersion
  ledgerVersions : forall version, version ∈ database.versions .appSchemaMigrations ->
    version ≤ applicationSchemaVersion
  marks : forall migration, migration ∈ migrations -> database.record migration.version = none ∨
    database.record migration.version = some (migration.mark digest)

theorem Sane.content {digest : String -> String} {database : Database} (sane : Sane digest database) :
    Content digest database where
  known := sane.known
  columns := sane.columns
  registryVersions := sane.registryVersions
  ledgerVersions := sane.ledgerVersions
  marks := sane.marks

/-- A database has grown within a scope. -/
structure Grows (digest : String -> String) (scope : Scope) (database later : Database) : Prop where
  keeps : database.Keeps later
  content : Content digest database -> Content digest later
  others : forall name, name ∉ scope.tables -> later.has name = database.has name
  records : forall version, version ∉ scope.versions -> later.record version = database.record version
  recorded : forall version, database.record version ≠ none -> later.record version ≠ none
  owner : scope.owner = false -> hasShareOwner later = hasShareOwner database
  ownerIndex : scope.owner = false -> (.sharedLinksOwner ∈ later.indexes ↔ .sharedLinksOwner ∈ database.indexes)

section Growth

variable {digest : String -> String} {scope : Scope} {database later : Database}

theorem Grows.refl (digest : String -> String) (scope : Scope) (database : Database) :
    Grows digest scope database database where
  keeps := Database.Keeps.refl database
  content := fun content => content
  others := fun _ _ => rfl
  records := fun _ _ => rfl
  recorded := fun _ made => made
  owner := fun _ => rfl
  ownerIndex := fun _ => Iff.rfl

theorem Grows.trans {final : Database} (first : Grows digest scope database later)
    (second : Grows digest scope later final) : Grows digest scope database final where
  keeps := first.keeps.trans second.keeps
  content := fun content => second.content (first.content content)
  others := fun name outside => (second.others name outside).trans (first.others name outside)
  records := fun version outside => (second.records version outside).trans (first.records version outside)
  recorded := fun version made => second.recorded version (first.recorded version made)
  owner := fun quiet => (second.owner quiet).trans (first.owner quiet)
  ownerIndex := fun quiet => (second.ownerIndex quiet).trans (first.ownerIndex quiet)

variable {name : TableName}

/-- A table that a scope may bring, with these columns. -/
abbrev Fits (scope : Scope) (name : TableName) (columns : List String) : Prop :=
  name.isKnown = true ∧ requiredColumns name ⊆ columns ∧ name ∈ scope.tables ∧ "owner_id" ∉ columns

theorem grows_add {columns : List String} (absent : database.has name = false) (fits : Fits scope name columns) :
    Grows digest scope database (database.add name columns) where
  keeps := Database.keeps_add absent columns
  content := by
    intro content
    have records := Database.record_congr (Database.rows_add absent columns .appSchemaMigrations)
    exact {
      known := by
        intro other there
        rw [Database.has_add absent, Bool.or_eq_true, decide_eq_true_eq] at there
        rcases there with rfl | there
        · exact fits.1
        · exact content.known other there
      columns := by
        intro other there
        rw [Database.has_add absent, Bool.or_eq_true, decide_eq_true_eq] at there
        rw [Database.columns_add absent]
        split
        next same => exact same ▸ fits.2.1
        next different => exact content.columns other (there.resolve_left different)
      registryVersions := by
        rw [Database.versions_congr (Database.rows_add absent columns .schemaVersion)]
        exact content.registryVersions
      ledgerVersions := by
        rw [Database.versions_congr (Database.rows_add absent columns .appSchemaMigrations)]
        exact content.ledgerVersions
      marks := by
        intro migration member
        rw [records]
        exact content.marks migration member }
  others := by
    intro other outside
    have different : other ≠ name := by
      rintro rfl
      exact outside fits.2.2.1
    rw [Database.has_add absent, decide_eq_false different, Bool.false_or]
  records := fun version _ => Database.record_congr (Database.rows_add absent columns _) version
  recorded := fun version made => by
    rw [Database.record_congr (Database.rows_add absent columns _)]
    exact made
  owner := by
    intro _
    unfold hasShareOwner
    rw [Database.columns_add absent]
    split
    next same => rw [same, columns_absent absent, decide_eq_false fits.2.2.2, decide_eq_false List.not_mem_nil]
    · rfl
  ownerIndex := fun _ => Iff.rfl

theorem clashes_ledger {migration : Migration} (build : Build) (now : Int) :
    database.clashes .appSchemaMigrations "version" (ledgerRow build migration now) =
      (database.record migration.version).isSome := by
  unfold Database.clashes Database.record
  rw [Option.isSome_map, List.isSome_find?]
  rfl

theorem migration_version {one two : Migration} (first : one ∈ migrations) (second : two ∈ migrations)
    (same : one.version = two.version) : one = two :=
  List.inj_on_of_nodup_map (by decide) first second same

theorem migration_bounded {migration : Migration} (member : migration ∈ migrations) :
    migration.version ≤ applicationSchemaVersion := by
  have every : (migrations.map Migration.version).all (fun version => decide (version ≤ applicationSchemaVersion)) := by
    decide
  exact of_decide_eq_true (List.all_eq_true.mp every _ (List.mem_map_of_mem member))

theorem record_insert (there : database.has .appSchemaMigrations = true) (build : Build) (migration : Migration)
    (now version : Int) :
    (database.update .appSchemaMigrations (Table.insert (ledgerRow build migration now))).record version =
      (database.record version).or
        (if migration.version = version then some (migration.mark build.digest) else none) := by
  unfold Database.record
  rw [Database.rows_insert there, if_pos rfl, List.find?_append, Option.map_or, List.find?_singleton]
  have get : (ledgerRow build migration now).get "version" = .integer migration.version := rfl
  rw [get]
  by_cases same : migration.version = version
  · rw [if_pos same, if_pos (decide_eq_true (same ▸ rfl))]
    rfl
  · rw [if_neg same, if_neg (by simpa using same)]
    rfl

theorem versions_insert (there : database.has name = true) (row : Row) (other : TableName)
    {bound : Int} (within : forall version, row.get "version" = .integer version -> version ≤ bound)
    (held : forall version, version ∈ database.versions other -> version ≤ bound) :
    forall version, version ∈ (database.update name (Table.insert row)).versions other -> version ≤ bound := by
  intro version member
  unfold Database.versions at member
  rw [Database.rows_insert there] at member
  split at member
  · rw [List.filterMap_append, List.mem_append] at member
    rcases member with old | new
    · exact held version old
    · rcases List.mem_filterMap.mp new with ⟨one, only, shown⟩
      cases List.mem_singleton.mp only
      split at shown
      next read =>
        cases shown
        exact within _ read
      · cases shown
  · exact held version member

theorem grows_insert (there : database.has name = true) (row : Row) (other : name ≠ .appSchemaMigrations)
    (within : forall version, row.get "version" = .integer version -> version ≤ encryptionSchemaVersion) :
    Grows digest scope database (database.update name (Table.insert row)) := by
  have records : forall version,
      (database.update name (Table.insert row)).record version = database.record version := by
    intro version
    apply Database.record_congr
    rw [Database.rows_insert there, if_neg other.symm]
  exact {
    keeps := Database.keeps_update fun table _ => Table.insert_extends row table
    content := fun content => {
      known := fun name has => content.known name (Database.has_update _ name ▸ has)
      columns := fun name has => by
        rw [Database.columns_insert]
        exact content.columns name (Database.has_update _ name ▸ has)
      registryVersions := versions_insert there row _ within content.registryVersions
      ledgerVersions := by
        have same : (database.update name (Table.insert row)).rows .appSchemaMigrations =
            database.rows .appSchemaMigrations := by rw [Database.rows_insert there, if_neg other.symm]
        rw [Database.versions_congr same]
        exact content.ledgerVersions
      marks := fun migration member => by
        rw [records]
        exact content.marks migration member }
    others := fun name _ => Database.has_update _ name
    records := fun version _ => records version
    recorded := fun version made => by
      rw [records]
      exact made
    owner := fun _ => by
      unfold hasShareOwner
      rw [Database.columns_insert]
    ownerIndex := fun _ => Iff.rfl }

theorem grows_record {build : Build} {migration : Migration} (there : database.has .appSchemaMigrations = true)
    (member : migration ∈ migrations) (missing : database.record migration.version = none)
    (inside : migration.version ∈ scope.versions) (now : Int) :
    Grows build.digest scope database
      (database.update .appSchemaMigrations (Table.insert (ledgerRow build migration now))) := by
  have read := record_insert there build migration now
  exact {
    keeps := Database.keeps_update fun table _ => Table.insert_extends _ table
    content := fun content => {
      known := fun name has => content.known name (Database.has_update _ name ▸ has)
      columns := fun name has => by
        rw [Database.columns_insert]
        exact content.columns name (Database.has_update _ name ▸ has)
      registryVersions := by
        have same : (database.update .appSchemaMigrations (Table.insert (ledgerRow build migration now))).rows
            .schemaVersion = database.rows .schemaVersion := by
          rw [Database.rows_insert there, if_neg TableName.noConfusion]
        rw [Database.versions_congr same]
        exact content.registryVersions
      ledgerVersions := by
        apply versions_insert there _ _ _ content.ledgerVersions
        intro version shown
        cases shown
        exact migration_bounded member
      marks := fun other among => by
        rw [read]
        split
        next same =>
          cases migration_version member among same
          rw [missing]
          exact Or.inr rfl
        · rw [Option.or_none]
          exact content.marks other among }
    others := fun name _ => Database.has_update _ name
    records := fun version outside => by
      rw [read, if_neg, Option.or_none]
      rintro rfl
      exact outside inside
    recorded := fun version made => by
      rw [read]
      cases recorded : database.record version with
      | none => exact (made recorded).elim
      | some mark => exact Option.some_ne_none _
    owner := fun _ => by
      unfold hasShareOwner
      rw [Database.columns_insert]
    ownerIndex := fun _ => Iff.rfl }

theorem grows_addColumn (there : database.has name = true) {column : String} (default : Value)
    (fresh : column ∉ database.columns name) (ledger : name ≠ .appSchemaMigrations) (registry : name ≠ .schemaVersion)
    (unowned : scope.owner = false -> name ≠ .sharedLinks) :
    Grows digest scope database (database.update name (Table.addColumn column default)) := by
  have records : forall version, (database.update name (Table.addColumn column default)).record version =
      database.record version := fun version =>
    Database.record_congr (Database.rows_addColumn column default ledger.symm) version
  exact {
    keeps := by
      apply Database.keeps_update
      intro table found
      apply Table.addColumn_extends
      unfold Database.columns at fresh
      rw [found] at fresh
      exact fresh
    content := fun content => {
      known := fun name has => content.known name (Database.has_update _ name ▸ has)
      columns := fun other has => by
        rw [Database.columns_addColumn there]
        split
        · exact fun _ member => List.mem_append_left _ (content.columns other (Database.has_update _ other ▸ has) member)
        · exact content.columns other (Database.has_update _ other ▸ has)
      registryVersions := by
        rw [Database.versions_congr (Database.rows_addColumn column default registry.symm)]
        exact content.registryVersions
      ledgerVersions := by
        rw [Database.versions_congr (Database.rows_addColumn column default ledger.symm)]
        exact content.ledgerVersions
      marks := fun migration member => by
        rw [records]
        exact content.marks migration member }
    others := fun name _ => Database.has_update _ name
    records := fun version _ => records version
    recorded := fun version made => by
      rw [records]
      exact made
    owner := fun quiet => by
      unfold hasShareOwner
      rw [Database.columns_addColumn there, if_neg (unowned quiet).symm]
    ownerIndex := fun _ => Iff.rfl }

theorem grows_index {index : IndexName} (unowned : scope.owner = false -> index ≠ .sharedLinksOwner) :
    Grows digest scope database { database with
      indexes := database.indexes ++ [index] } where
  keeps := Database.Keeps.refl database
  content := fun content => ⟨content.known, content.columns, content.registryVersions, content.ledgerVersions, content.marks⟩
  others := fun _ _ => rfl
  records := fun _ _ => rfl
  recorded := fun _ made => made
  owner := fun _ => rfl
  ownerIndex := fun quiet => by
    rw [List.mem_append, List.mem_singleton]
    exact or_iff_left (unowned quiet).symm

/-! ## Statements within a scope -/

/-- Wherever a statement succeeds, the database grows within the scope. -/
def Within (digest : String -> String) (scope : Scope) (change : Database -> Except String Database) : Prop :=
  forall database later, change database = .ok later -> Grows digest scope database later

/-- A statement leaves a table of this name. -/
def Makes (change : Database -> Except String Database) (name : TableName) : Prop :=
  forall database later, change database = .ok later -> later.has name = true

theorem within_createIfAbsent {columns : List String} (fits : Fits scope name columns) :
    Within digest scope (Database.createIfAbsent name columns) := by
  intro database later made
  cases made
  split
  · exact Grows.refl digest scope database
  next absent => exact grows_add (Bool.eq_false_iff.mpr absent) fits

theorem createIfAbsent_makes (name : TableName) (columns : List String) :
    Makes (Database.createIfAbsent name columns) name := by
  intro database later made
  cases made
  split
  next there => exact there
  next absent => rw [Database.has_add (Bool.eq_false_iff.mpr absent), decide_eq_true rfl, Bool.true_or]

theorem within_create {columns : List String} (fits : Fits scope name columns) :
    Within digest scope (Database.create name columns) := by
  intro database later made
  unfold Database.create at made
  split at made
  · cases made
  next absent =>
    cases made
    exact grows_add (Bool.eq_false_iff.mpr absent) fits

theorem create_makes (name : TableName) (columns : List String) : Makes (Database.create name columns) name := by
  intro database later made
  unfold Database.create at made
  split at made
  · cases made
  next absent =>
    cases made
    rw [Database.has_add (Bool.eq_false_iff.mpr absent), decide_eq_true rfl, Bool.true_or]

theorem within_createIndex {index : IndexName} (unowned : scope.owner = false -> index ≠ .sharedLinksOwner) :
    Within digest scope (Database.createIndex index name) := by
  intro database later made
  unfold Database.createIndex at made
  split at made
  · cases made
  · split at made
    · cases made
      exact grows_index unowned
    · cases made

theorem within_createIndexIfAbsent {index : IndexName}
    (unowned : scope.owner = false -> index ≠ .sharedLinksOwner) :
    Within digest scope (Database.createIndexIfAbsent index name) := by
  intro database later made
  unfold Database.createIndexIfAbsent at made
  split at made
  · cases made
    exact Grows.refl digest scope database
  · exact within_createIndex unowned database later made

theorem within_insertOrIgnore {key : String} {row : Row} (other : name ≠ .appSchemaMigrations)
    (within : forall version, row.get "version" = .integer version -> version ≤ encryptionSchemaVersion) :
    Within digest scope (Database.insertOrIgnore name key row) := by
  intro database later made
  unfold Database.insertOrIgnore at made
  split at made
  next there =>
    cases made
    split
    · exact Grows.refl digest scope database
    · exact grows_insert there row other within
  · cases made

section Records

variable {build : Build} {migration : Migration} {now : Int}

theorem within_record (member : migration ∈ migrations) (inside : migration.version ∈ scope.versions) :
    Within build.digest scope (Database.insert .appSchemaMigrations "version" (ledgerRow build migration now)) := by
  intro database later made
  unfold Database.insert at made
  rw [clashes_ledger] at made
  split at made
  next there =>
    split at made
    · cases made
    next missing =>
      cases made
      exact grows_record there member (Option.not_isSome_iff_eq_none.mp missing) inside now
  · cases made

theorem within_recordOrIgnore (member : migration ∈ migrations) (inside : migration.version ∈ scope.versions) :
    Within build.digest scope
      (Database.insertOrIgnore .appSchemaMigrations "version" (ledgerRow build migration now)) := by
  intro database later made
  unfold Database.insertOrIgnore at made
  rw [clashes_ledger] at made
  split at made
  next there =>
    cases made
    split
    · exact Grows.refl build.digest scope database
    next missing => exact grows_record there member (Option.not_isSome_iff_eq_none.mp missing) inside now
  · cases made

theorem record_made (made : Database.insertOrIgnore .appSchemaMigrations "version" (ledgerRow build migration now)
    database = .ok later) : later.record migration.version ≠ none := by
  unfold Database.insertOrIgnore at made
  rw [clashes_ledger] at made
  split at made
  next there =>
    cases made
    split
    next recorded => exact Option.isSome_iff_ne_none.mp recorded
    · rw [record_insert there, if_pos rfl]
      cases database.record migration.version <;> exact Option.some_ne_none _
  · cases made

theorem record_inserted (made : Database.insert .appSchemaMigrations "version" (ledgerRow build migration now)
    database = .ok later) : later.record migration.version ≠ none := by
  unfold Database.insert at made
  rw [clashes_ledger] at made
  split at made
  next there =>
    split at made
    · cases made
    · cases made
      rw [record_insert there, if_pos rfl]
      cases database.record migration.version <;> exact Option.some_ne_none _
  · cases made

end Records

theorem within_addColumn {column : String} {default : Value} (ledger : name ≠ .appSchemaMigrations)
    (registry : name ≠ .schemaVersion) (unowned : scope.owner = false -> name ≠ .sharedLinks) :
    Within digest scope (Database.addColumn name column default) := by
  intro database later made
  unfold Database.addColumn at made
  split at made
  next there =>
    split at made
    · cases made
    next fresh =>
      cases made
      exact grows_addColumn there default fresh ledger registry unowned
  · cases made

variable {changes : List (Database -> Except String Database)}

/-- What each statement of a script keeps within a scope, the script does. -/
theorem applyAll_within (each : forall change, change ∈ changes -> Within digest scope change)
    (made : Transactions.applyAll changes database = .ok later) : Grows digest scope database later := by
  induction changes generalizing database with
  | nil =>
    cases made
    exact Grows.refl digest scope _
  | cons change rest ih =>
    rcases Transactions.applyAll_cons_ok made with ⟨middle, once, more⟩
    exact (each change List.mem_cons_self database middle once).trans
      (ih (fun other member => each other (List.mem_cons_of_mem _ member)) more)

/-- What a statement of a script establishes, and every growth keeps, holds behind the script. -/
theorem applyAll_holds {reached : Database -> Prop}
    (each : forall change, change ∈ changes -> Within digest scope change)
    (kept : forall database later, Grows digest scope database later -> reached database -> reached later)
    {change : Database -> Except String Database} (member : change ∈ changes)
    (establishes : forall database later, change database = .ok later -> reached later)
    (made : Transactions.applyAll changes database = .ok later) : reached later := by
  rcases List.append_of_mem member with ⟨before, behind, rfl⟩
  induction before generalizing database with
  | nil =>
    rcases Transactions.applyAll_cons_ok made with ⟨middle, once, more⟩
    refine kept middle later (applyAll_within (fun other among => each other ?_) more) (establishes _ _ once)
    exact List.mem_cons_of_mem _ among
  | cons first before ih =>
    rcases Transactions.applyAll_cons_ok made with ⟨middle, once, more⟩
    exact ih (fun other among => each other (List.mem_cons_of_mem _ among))
      (List.mem_append_right _ List.mem_cons_self) more

/-- The tables that a script creates are there behind it. -/
theorem applyAll_creates (each : forall change, change ∈ changes -> Within digest scope change)
    (made : Transactions.applyAll changes database = .ok later) (columns : List String)
    (member : Database.createIfAbsent name columns ∈ changes) : later.has name = true :=
  applyAll_holds each (fun _ _ grows there => grows.keeps.has there) member (createIfAbsent_makes name columns) made

end Growth

end Upgrade
end TelegramDrive
