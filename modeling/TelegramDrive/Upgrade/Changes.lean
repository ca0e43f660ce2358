import TelegramDrive.Library.Results
import TelegramDrive.Upgrade.Schema

namespace TelegramDrive
namespace Upgrade

/-!
# What statements make of a database

Each change adds: a table, a column, a row or an index.  So a table that is there stays
there, with its columns and with every row of it, and the row has its old values under
the old columns.
-/

/-! ## Tables -/

/-- The table with a row more. -/
def Table.insert (row : Row) (table : Table) : Table :=
  { table with
    rows := table.rows ++ [row] }

/-- The table with a column more, in which each row has the default. -/
def Table.addColumn (column : String) (default : Value) (table : Table) : Table where
  columns := table.columns ++ [column]
  rows := table.rows.map fun row => row ++ [(column, default)]

/-- A table has all of another: its columns, and at each place its row, with the values under
these columns. -/
structure Table.Extends (old later : Table) : Prop where
  columns : old.columns ⊆ later.columns
  rows : forall (index : Nat) (row : Row), old.rows[index]? = some row -> Exists fun after => later.rows[index]? = some after ∧
    forall column, column ∈ old.columns -> after.get column = row.get column

theorem Table.Extends.refl (table : Table) : Table.Extends table table where
  columns := fun _ member => member
  rows := fun _ row found => ⟨row, found, fun _ _ => rfl⟩

theorem Table.Extends.trans {old middle later : Table} (first : Table.Extends old middle)
    (second : Table.Extends middle later) : Table.Extends old later where
  columns := fun _ member => second.columns (first.columns member)
  rows := by
    intro index row found
    rcases first.rows index row found with ⟨between, there, same⟩
    rcases second.rows index between there with ⟨after, last, alike⟩
    exact ⟨after, last, fun column member => (alike column (first.columns member)).trans (same column member)⟩

theorem Table.insert_extends (row : Row) (table : Table) : Table.Extends table (Table.insert row table) where
  columns := fun _ member => member
  rows := by
    intro index old found
    refine ⟨old, ?_, fun _ _ => rfl⟩
    exact List.getElem?_append_left (List.getElem?_eq_some_iff.mp found).1 ▸ found

theorem Row.get_append {row : Row} {column other : String} (different : other ≠ column) (value : Value) :
    Row.get (row ++ [(column, value)]) other = Row.get row other := by
  unfold Row.get
  have never : List.find? (fun cell : String × Value => decide (cell.1 = other)) [(column, value)] = none := by
    rw [List.find?_singleton, if_neg]
    simpa using different.symm
  rw [List.find?_append, never, Option.or_none]

theorem Table.addColumn_extends {column : String} {table : Table} (fresh : column ∉ table.columns) (default : Value) :
    Table.Extends table (Table.addColumn column default table) where
  columns := fun _ member => List.mem_append_left _ member
  rows := by
    intro index row found
    refine ⟨row ++ [(column, default)], ?_, ?_⟩
    · change (table.rows.map _)[index]? = _
      rw [List.getElem?_map, found]
      rfl
    · intro other member
      refine Row.get_append ?_ default
      rintro rfl
      exact fresh member

/-! ## Statements -/

namespace Database

/-- Change a table that is there. -/
def update (database : Database) (name : TableName) (change : Table -> Table) : Database :=
  { database with
    tables := database.tables.map fun entry => if entry.1 = name then (entry.1, change entry.2) else entry }

/-- A table without rows, behind the others. -/
def add (database : Database) (name : TableName) (columns : List String) : Database :=
  { database with
    tables := database.tables ++ [(name, ⟨columns, []⟩)] }

def noSuchTable (name : TableName) : String := "no such table: " ++ name.text

/-- `CREATE TABLE IF NOT EXISTS` -/
def createIfAbsent (name : TableName) (columns : List String) (database : Database) : Except String Database :=
  .ok (if database.has name then database else database.add name columns)

/-- `CREATE TABLE` -/
def create (name : TableName) (columns : List String) (database : Database) : Except String Database :=
  if database.has name then .error ("table " ++ name.text ++ " already exists") else .ok (database.add name columns)

/-- `CREATE INDEX` on a table -/
def createIndex (index : IndexName) (name : TableName) (database : Database) : Except String Database :=
  if index ∈ database.indexes then .error "index already exists"
  else if database.has name then .ok { database with
    indexes := database.indexes ++ [index] }
  else .error (noSuchTable name)

/-- `CREATE INDEX IF NOT EXISTS` on a table -/
def createIndexIfAbsent (index : IndexName) (name : TableName) (database : Database) : Except String Database :=
  if index ∈ database.indexes then .ok database else database.createIndex index name

/-- Whether a row has this row's value of the key. -/
def clashes (database : Database) (name : TableName) (key : String) (row : Row) : Bool :=
  (database.rows name).any fun other => decide (other.get key = row.get key)

/-- `INSERT` into a table with this primary key -/
def insert (name : TableName) (key : String) (row : Row) (database : Database) : Except String Database :=
  if database.has name then
    if database.clashes name key row then .error ("UNIQUE constraint failed: " ++ name.text ++ "." ++ key)
    else .ok (database.update name (Table.insert row))
  else .error (noSuchTable name)

/-- `INSERT OR IGNORE` into a table with this primary key -/
def insertOrIgnore (name : TableName) (key : String) (row : Row) (database : Database) : Except String Database :=
  if database.has name then
    .ok (if database.clashes name key row then database else database.update name (Table.insert row))
  else .error (noSuchTable name)

/-- `ALTER TABLE ADD COLUMN` -/
def addColumn (name : TableName) (column : String) (default : Value) (database : Database) :
    Except String Database :=
  if database.has name then
    if column ∈ database.columns name then .error ("duplicate column name: " ++ column)
    else .ok (database.update name (Table.addColumn column default))
  else .error (noSuchTable name)

/-! ## What is read after a change -/

theorem find_add {database : Database} {name : TableName} (absent : database.has name = false)
    (columns : List String) (other : TableName) :
    (database.add name columns).find other = if other = name then some ⟨columns, []⟩ else database.find other := by
  unfold find add
  rw [List.find?_append, Option.map_or]
  split
  next same =>
    subst same
    have none : (database.find other) = none := Option.isSome_eq_false_iff.mp absent |> Option.isNone_iff_eq_none.mp
    unfold find at none
    rw [none]
    simp
  next different =>
    have never : List.find? (fun entry : TableName × Table => decide (entry.1 = other)) [(name, ⟨columns, []⟩)] = none := by
      rw [List.find?_singleton, if_neg]
      simpa using fun same => different same.symm
    rw [never]
    cases (database.tables.find? fun entry => decide (entry.1 = other)).map Prod.snd <;> rfl

theorem find_update (database : Database) (name : TableName) (change : Table -> Table) (other : TableName) :
    (database.update name change).find other =
      if other = name then (database.find other).map change else database.find other := by
  unfold find update
  dsimp only
  rw [List.find?_map]
  have named : ((fun entry : TableName × Table => decide (entry.1 = other)) ∘ fun entry =>
      if entry.1 = name then (entry.1, change entry.2) else entry) = fun entry => decide (entry.1 = other) := by
    funext entry
    dsimp only [Function.comp]
    split <;> rfl
  rw [named]
  cases found : database.tables.find? fun entry => decide (entry.1 = other) with
  | none => split <;> rfl
  | some entry =>
    have here : entry.1 = other := by simpa using List.find?_some found
    rw [Option.map_some, Option.map_some, here]
    split <;> rfl

/-! ## What stays -/

/-- Every table is there, with every column and every row of it. -/
def Keeps (old later : Database) : Prop :=
  forall name table, old.find name = some table ->
    Exists fun after => later.find name = some after ∧ table.Extends after

theorem Keeps.refl (database : Database) : database.Keeps database :=
  fun _ table found => ⟨table, found, Table.Extends.refl table⟩

theorem Keeps.trans {old middle later : Database} (first : old.Keeps middle) (second : middle.Keeps later) :
    old.Keeps later := by
  intro name table found
  rcases first name table found with ⟨between, there, extends_⟩
  rcases second name between there with ⟨after, last, more⟩
  exact ⟨after, last, extends_.trans more⟩

theorem Keeps.has {old later : Database} (keeps : old.Keeps later) {name : TableName} (there : old.has name = true) :
    later.has name = true := by
  rcases Option.isSome_iff_exists.mp there with ⟨table, found⟩
  rcases keeps name table found with ⟨after, stays, _⟩
  exact Option.isSome_of_eq_some stays

/-! ## What each change does -/

theorem keeps_add {database : Database} {name : TableName} (absent : database.has name = false)
    (columns : List String) : database.Keeps (database.add name columns) := by
  intro other table found
  refine ⟨table, ?_, Table.Extends.refl table⟩
  rw [find_add absent, if_neg, found]
  rintro rfl
  unfold has at absent
  rw [found] at absent
  cases absent

theorem keeps_update {database : Database} {name : TableName} {change : Table -> Table}
    (extending : forall table, database.find name = some table -> table.Extends (change table)) :
    database.Keeps (database.update name change) := by
  intro other table found
  rw [find_update, found]
  split
  next same => exact ⟨change table, rfl, extending table (same ▸ found)⟩
  · exact ⟨table, rfl, Table.Extends.refl table⟩

end Database

end Upgrade
end TelegramDrive
