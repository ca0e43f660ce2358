import Mathlib.Data.List.Sort
import TelegramDrive.Library.BinaryOrder
import TelegramDrive.Workspace.LocalStore

namespace TelegramDrive
namespace Workspace
namespace Pagination

open LocalStore

/-!
# One page of the library

A page is read from the workspace database by two statements, one that counts the
visible files and one that reads a part of them in their order, and by further
statements for the tags and collections of the files on the page.  A text of the
database stands here for what can be read from it; SQLite compares texts by their
code points.
-/

/-- The text of a record: its status and its value as a flag, and the whole of it. -/
structure RecordText where
  status : Except String (Option String)
  flag : Except String Bool
  json : Except String String

structure Record where
  kind : String
  id : String
  value : RecordText
  updated : Int

/-- A row of `workspace_files`, with what is read of its metadata: the value of
`created_at`, of some ordered type of SQL values, and all of it. -/
structure LibraryRow (SqlValue : Type) where
  key : String
  created : Except String SqlValue
  metadata : Except String FileMetadata
  folderName : String

/-- The part of the workspace database that a page is read from.  Keys of files, and kinds
with identifiers of records, are primary keys.  Tags and collections are in the
order of the statements that read them. -/
structure Database (SqlValue : Type) where
  files : List (LibraryRow SqlValue)
  records : List Record
  tags : String -> List String
  membership : String -> List String
  keys : (files.map LibraryRow.key).Nodup
  identifiers : (records.map fun record => (record.kind, record.id)).Nodup

structure WorkspaceFile where
  key : String
  file : FileMetadata
  folderName : String
  tags : List String
  collectionIds : List String

structure Snapshot where
  ownerId : Int
  files : List WorkspaceFile
  collections : List String
  searches : List String
  scans : List String

section Pages

variable {SqlValue : Type} [LinearOrder SqlValue]

/-- `ORDER BY created_at DESC, key` -/
def Before (one two : SqlValue × LibraryRow SqlValue) : Prop :=
  two.1 < one.1 ∨ one.1 = two.1 ∧ TextLe one.2.key two.2.key

instance : DecidableRel (@Before SqlValue _) :=
  fun one two => inferInstanceAs (Decidable (two.1 < one.1 ∨ one.1 = two.1 ∧ TextLe one.2.key two.2.key))

namespace Database

variable (database : Database SqlValue)

def record (kind id : String) : Option RecordText :=
  (database.records.find? fun record => decide (record.kind = kind ∧ record.id = id)).map Record.value

/-- The statuses of a removal that hide its file. -/
def hiddenStatuses : List String := ["pending", "deleting", "deleted"]

/-- Whether no removal hides the file. -/
def visible (key : String) : Except String Bool :=
  match database.record "removal" key with
  | none => .ok true
  | some value => do
      let status <- value.status
      return match status with
        | none => true
        | some status => !hiddenStatuses.contains status

/-- The visible rows among these. -/
def visibleOf : List (LibraryRow SqlValue) -> Except String (List (LibraryRow SqlValue))
  | [] => .ok []
  | row :: rest => do
      let shown <- database.visible row.key
      let others <- visibleOf rest
      return if shown then row :: others else others

/-- Rows with the value by which they are ordered. -/
def withCreated : List (LibraryRow SqlValue) -> Except String (List (SqlValue × LibraryRow SqlValue))
  | [] => .ok []
  | row :: rest => do
      let created <- row.created
      let others <- withCreated rest
      return (created, row) :: others

/-- The visible rows in their order. -/
def ordered : Except String (List (LibraryRow SqlValue)) := do
  let rows <- database.visibleOf database.files
  let keyed <- withCreated rows
  return (keyed.insertionSort Before).map Prod.snd

/-- The largest count that fits a `usize`. -/
def maxCount : Nat := 2 ^ 63

def count : Except String Nat := do
  let rows <- database.visibleOf database.files
  if rows.length < maxCount then return rows.length
  else .error "out of range integral type conversion attempted"

/-- A flag that the user set goes before the one in the metadata. -/
def flagged (kind key : String) (otherwise : Bool) : Except String Bool :=
  match database.record kind key with
  | none => .ok otherwise
  | some value => value.flag

def readFile (row : LibraryRow SqlValue) : Except String WorkspaceFile := do
  let file <- row.metadata
  let favorite <- database.flagged "favorite" row.key file.isFavorite
  let pinned <- database.flagged "pin" row.key file.isPinned
  return {
    key := row.key
    file := { file with
      isFavorite := favorite
      isPinned := pinned }
    folderName := row.folderName
    tags := database.tags row.key
    collectionIds := database.membership row.key }

/-- `Store::records`, the newest first. -/
def recordsOf (kind : String) : Except String (List String) :=
  (((database.records.filter fun record => decide (record.kind = kind)).insertionSort
    fun one two => two.updated < one.updated ∨ one.updated = two.updated ∧ TextLe one.id two.id).map
      fun record => record.value.json).mapM id

/-- Records go with the first page only. -/
def recordsOnFirst (offset : Nat) (kind : String) : Except String (List String) :=
  if offset = 0 then database.recordsOf kind else .ok []

/-- `Store::snapshot_page` -/
def snapshotPage (owner : Int) (offset limit : Nat) : Except String (Snapshot × Nat) := do
  let total <- database.count
  let rows <- database.ordered
  let files <- ((rows.drop offset).take limit).mapM database.readFile
  let collections <- database.recordsOnFirst offset "collection"
  let searches <- database.recordsOnFirst offset "search"
  let scans <- database.recordsOnFirst offset "scan"
  return (⟨owner, files, collections, searches, scans⟩, total)

/-- The whole library, as `snapshot_page` reads its files. -/
def listing : Except String (List WorkspaceFile) := do
  let rows <- database.ordered
  rows.mapM database.readFile

end Database

end Pages

/-! ## Cursors -/

/-- `parse::<usize>` -/
def parseUsize (text : List Char) : Option Nat :=
  let digits := if text.head? = some '+' then text.tail else text
  if digits ≠ [] ∧ digits.all Char.isDigit ∧ Nat.ofDigitChars 10 digits 0 < 2 ^ 64 then
    some (Nat.ofDigitChars 10 digits 0)
  else none

/-- The identifier of a session and the offset behind the first colon. -/
def splitOnce (text : List Char) : Option (List Char × List Char) :=
  if ':' ∈ text then
    some (text.takeWhile fun character => decide (character ≠ ':'),
      (text.dropWhile fun character => decide (character ≠ ':')).tail)
  else none

def parseCursor (text : List Char) : Option (List Char × Nat) := do
  let (id, offset) <- splitOnce text
  let offset <- parseUsize offset
  return (id, offset)

def formatCursor (id : List Char) (offset : Nat) : List Char := id ++ ':' :: Nat.toDigits 10 offset

end Pagination
end Workspace
end TelegramDrive
