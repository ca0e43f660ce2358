import TelegramDrive.Workspace.Removals
import TelegramDrive.Library.Results
import Mathlib.Logic.Function.Basic

namespace TelegramDrive
namespace Workspace

/-!
# The local store of an account

Files, tags, memberships of collections and records are kept under the key of a file.  A
record is a JSON text of some kind; flags set by the user are records, and what was opened is
a record that names its file again.
-/

namespace LocalStore

abbrev Key := String

structure FileMetadata where
  id : Int
  folderId : Option Int
  name : String
  size : Nat
  mimeType : Option String
  fileExt : Option String
  createdAt : String
  iconType : String
  encryptionState : String
  isFavorite : Bool
  isPinned : Bool
deriving DecidableEq

def FileMetadata.key (file : FileMetadata) : Key := fileKey file.folderId file.id

/-- A row of `workspace_files`.  The metadata is a text that may be damaged. -/
structure FileRow where
  folder : String
  metadata : Option FileMetadata
  folderName : String
  scan : String
deriving DecidableEq

structure OpenedFile where
  folderId : Option Int
  messageId : Int
  lastOpenedAt : Int
  openCount : Nat
deriving DecidableEq

def OpenedFile.key (opened : OpenedFile) : Key := fileKey opened.folderId opened.messageId

/-- The text of a record, as it can be read. -/
inductive Value
  | bool (value : Bool)
  | opened (file : OpenedFile)
  | json (text : String)
  | damaged (text : String)
deriving DecidableEq

structure Store where
  files : Key -> Option FileRow
  tags : Key -> List String
  collections : Key -> List String
  records : String -> Key -> Option Value

def invalidJson : String := "invalid JSON"

/-! ## Statements -/

def Store.putFile (store : Store) (key : Key) (row : FileRow) : Store :=
  { store with files := Function.update store.files key (some row) }

/-- `DELETE FROM workspace_files WHERE key=?` -/
def Store.deleteFile (store : Store) (key : Key) : Store :=
  { store with files := Function.update store.files key none }

def Store.removeRecord (store : Store) (kind : String) (key : Key) : Store :=
  { store with
    records := fun other => if other = kind then Function.update (store.records other) key none
      else store.records other }

def Store.putRecord (store : Store) (kind : String) (key : Key) (value : Value) : Except String Store :=
  if validRecordId key = true then .ok { store with
    records := fun other => if other = kind then Function.update (store.records other) key (some value)
      else store.records other }
  else .error "Invalid record identifier"

/-- `record::<bool>` -/
def Store.flag (store : Store) (kind : String) (key : Key) : Except String (Option Bool) :=
  match store.records kind key with
  | none => .ok none
  | some (.bool value) => .ok (some value)
  | some _ => .error invalidJson

/-- `record::<serde_json::Value>` -/
def Store.value (store : Store) (kind : String) (key : Key) : Except String (Option Value) :=
  match store.records kind key with
  | some (.damaged _) => .error invalidJson
  | found => .ok found

local instance lawfulChars : LawfulBEq (List Char) := inferInstance

/-- `UPDATE OR IGNORE` of the file of some rows, one after the other: a row stays where the
target has its equal already. -/
def moveRows (fold : String -> List Char) : List String -> List String -> List String × List String
  | [], target => ([], target)
  | row :: rows, target =>
    if fold row ∈ target.map fold then (row :: (moveRows fold rows target).1, (moveRows fold rows target).2)
    else moveRows fold rows (target ++ [row])

def moveKey (fold : String -> List Char) (table : Key -> List String) (old new : Key) : Key -> List String :=
  if old = new then table
  else
    let moved := moveRows fold (table old) (table new)
    Function.update (Function.update table old moved.1) new moved.2

/-- The collation of tags. -/
def foldTag (tag : String) : List Char := tag.toList.map Char.toLower

def Store.moveTags (store : Store) (old new : Key) : Store :=
  { store with tags := moveKey foldTag store.tags old new }

def Store.moveCollections (store : Store) (old new : Key) : Store :=
  { store with collections := moveKey String.toList store.collections old new }

/-! ## Files -/

/-- `Store::file`, with the columns that its callers read. -/
def Store.file (store : Store) (key : Key) : Except String (Option FileMetadata) :=
  match store.files key with
  | none => .ok none
  | some row =>
    match row.metadata with
    | none => .error invalidJson
    | some file => do
        let favorite <- store.flag "favorite" key
        let pinned <- store.flag "pin" key
        return some { file with
          isFavorite := favorite.getD file.isFavorite
          isPinned := pinned.getD file.isPinned }

/-- What is not kept of an encrypted file. -/
def FileMetadata.protect (file : FileMetadata) : FileMetadata :=
  if file.encryptionState ≠ "plain" then
    { file with
      name := "Protected file"
      mimeType := some "application/octet-stream"
      fileExt := none
      encryptionState := "encrypted_locked" }
  else file

def FileMetadata.keep (file : FileMetadata) (previous : Option FileMetadata) : FileMetadata :=
  match previous with
  | none => file
  | some previous =>
    { file with
      isFavorite := previous.isFavorite
      isPinned := previous.isPinned
      createdAt := if file.createdAt = "" then previous.createdAt else file.createdAt }

def Store.rememberLocalFile (store : Store) (original : FileMetadata) : Except String Store :=
  if original.id ≤ 0 then .error "Invalid message identifier"
  else do
    let previous <- store.file original.key
    let file := (original.keep previous).protect
    let folder := (file.folderId.map toString).getD "saved"
    let folderName := (file.folderId.map toString).getD "Saved Messages"
    return store.putFile original.key (match store.files original.key with
      | some row => { row with metadata := some file }
      | none => ⟨folder, some file, folderName, "activity"⟩)

/-! ## Activity -/

/-- The record of what was opened that `read_activity` finds under a key. -/
def Store.history (store : Store) (key : Key) : Option OpenedFile :=
  match store.records "opened" key with
  | some (.opened file) => if file.key = key then some file else none
  | _ => none

inductive View
  | favorites
  | pinned
  | recents
deriving DecidableEq

/-- What `read_activity` shows of a file, before its order and its limit. -/
def Store.activity (store : Store) (view : View) (key : Key) : Except String (Option (FileMetadata × Int)) := do
  let entry <- store.file key
  return entry.bind fun file =>
    let opened := store.history key
    let shown : Bool := match view with
      | .favorites => file.isFavorite
      | .pinned => file.isPinned
      | .recents => opened.any fun opened => decide (0 < opened.openCount)
    if shown then some (file, (opened.map OpenedFile.lastOpenedAt).getD 0) else none

end LocalStore
end Workspace
end TelegramDrive
