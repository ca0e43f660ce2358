import TelegramDrive.WebDav.UniqueAliases
import TelegramDrive.Library.Machine
import Mathlib.Logic.Function.Basic

namespace TelegramDrive
namespace WebDav

/-!
# Listings of WebDAV folders

The index keeps a node for every path and the paths below every folder.  A listing of a
folder replaces what was listed before; a listing that may have missed files keeps the paths
of those that it does not contain.  Names that meet a kept path get the id of their message,
and then a further number.
-/

abbrev Path := List Char

/-- `Details` are the size, the time and the encryption of a file. -/
inductive Node (Details : Type)
  | root
  | folder (folderId : Option Int)
  | file (folderId : Option Int) (messageId : Int) (details : Details)

/-- A row of `DavFolderFile`. -/
structure Row (Details : Type) where
  messageId : Int
  name : Name
  details : Details

structure Index (Details : Type) where
  nodes : Path -> Option (Node Details)
  children : Path -> Option (List Path)

def Index.empty {Details : Type} : Index Details := ⟨fun _ => none, fun _ => none⟩

def below (folderPath : Path) (shown : Name) : Path := folderPath ++ '/' :: shown

/-- The suffixes that are put into a name that meets another one. -/
def suffix (messageId : Int) : Nat -> List Char
  | 0 => displayed messageId
  | number + 1 => displayed messageId ++ '-' :: Nat.toDigits 10 (number + 2)

def nameAttempt (shown : Name) (messageId : Int) : Nat -> Name
  | 0 => shown
  | number + 1 => disambiguateName shown (suffix messageId number)

/-- The paths that are tried for a row. -/
def pathAttempt (folderPath : Path) (shown : Name) (messageId : Int) (number : Nat) : Path :=
  below folderPath (nameAttempt shown messageId number)

section Index

variable {Details : Type} (table : CaseTable)

def placeRows (folderPath : Path) : List (List Char) -> List (Row Details × Name) -> Option (List (Path × Row Details))
  | _, [] => some []
  | occupied, (row, shown) :: rows => do
      let path <- firstFree table occupied (pathAttempt folderPath shown row.messageId)
      let others <- placeRows folderPath (table.lowercase path :: occupied) rows
      return (path, row) :: others

def Node.messageId? : Node Details -> Option Int
  | .file _ messageId _ => some messageId
  | _ => none

def Index.messageAt (index : Index Details) (path : Path) : Option Int := (index.nodes path).bind Node.messageId?

/-- A path of the last listing whose file is listed again. -/
def Index.refreshed (index : Index Details) (fresh : List Int) (path : Path) : Bool :=
  (index.messageAt path).any fun messageId => decide (messageId ∈ fresh)

def putAll {α : Type} (entries : List (Path × α)) (map : Path -> Option α) : Path -> Option α :=
  entries.foldl (fun map entry => Function.update map entry.1 (some entry.2)) map

def removeAll {α : Type} (paths : List Path) (map : Path -> Option α) : Path -> Option α :=
  paths.foldl (fun map path => Function.update map path none) map

def sortRows (rows : List (Row Details)) : List (Row Details) :=
  rows.mergeSort fun one other => decide (one.messageId ≤ other.messageId)

def itemsOf (rows : List (Row Details)) : List (Int × Name) := rows.map fun row => (row.messageId, row.name)

/-- The paths that stay listed beside the rows. -/
def Index.kept (index : Index Details) (folderPath : Path) (rows : List (Row Details)) (complete : Bool) : List Path :=
  ((index.children folderPath).getD []).filter fun path =>
    !(complete || index.refreshed (rows.map Row.messageId) path)

/-- The paths that `publish_folder_rows` gives to the sorted rows. -/
def Index.placed (index : Index Details) (folderPath : Path) (rows : List (Row Details)) (complete : Bool) :
    Option (List (Path × Row Details)) := do
  let aliases <- uniqueAliases table (itemsOf (sortRows rows))
  placeRows table folderPath ((index.kept folderPath (sortRows rows) complete).map table.lowercase)
    ((sortRows rows).zip aliases)

def Index.published (index : Index Details) (folderId : Option Int) (folderPath : Path) (rows : List (Row Details))
    (complete : Bool) (placed : List (Path × Row Details)) : Index Details where
  nodes := putAll (placed.map fun (path, row) => (path, .file folderId row.messageId row.details))
    (removeAll (((index.children folderPath).getD []).filter fun path =>
      complete || index.refreshed ((sortRows rows).map Row.messageId) path) index.nodes)
  children := Function.update index.children folderPath
    (some (index.kept folderPath (sortRows rows) complete ++ placed.map Prod.fst))

/-- The end of `refresh_root`, with the folders in their order. -/
def Index.refreshRoot (index : Index Details) (folders : List (Option Int × Name)) : Option (Index Details) := do
  let aliases <- uniqueAliases table (folders.map fun (folderId, name) => (folderId.getD 0, name))
  let previous := (index.children ['/']).getD []
  let placed := folders.zip aliases |>.map fun ((folderId, _), shown) =>
    (('/' :: shown : Path), (Node.folder folderId : Node Details))
  return ⟨putAll ((['/'], .root) :: placed) (removeAll previous index.nodes),
    Function.update (removeAll previous index.children) ['/'] (some (placed.map Prod.fst))⟩

end Index

/-! ## Runs -/

/-- The index, and for each path the remote name of the row that was last put there. -/
structure State (Details : Type) where
  index : Index Details
  origin : Path -> Name

inductive Event (Details : Type)
  | bind
  | root (folders : List (Option Int × Name))
  | publish (folderId : Option Int) (folderPath : Path) (rows : List (Row Details)) (complete : Bool)

/-- A path of a folder below the root. -/
def isFolderPath : Path -> Bool
  | '/' :: name => decide (name ≠ [] ∧ '/' ∉ name)
  | _ => false

def recordOrigin {Details : Type} (placed : List (Path × Row Details)) (origin : Path -> Name) : Path -> Name :=
  placed.foldl (fun origin entry => Function.update origin entry.1 entry.2.name) origin

section Machine

variable {Details : Type} (table : CaseTable)

def State.step (state : State Details) : Event Details -> Option (State Details)
  | .bind => some ⟨.empty, state.origin⟩
  | .root folders => (state.index.refreshRoot table folders).map fun index => ⟨index, state.origin⟩
  | .publish folderId folderPath rows complete =>
    if isFolderPath folderPath = true ∧ (rows.map Row.messageId).Nodup then
      (state.index.placed table folderPath rows complete).map fun placed =>
        ⟨state.index.published folderId folderPath rows complete placed, recordOrigin placed state.origin⟩
    else none

def machine : Machine (State Details) (Event Details) := ⟨State.step table⟩

def State.initial : State Details := ⟨.empty, fun _ => []⟩

end Machine

end WebDav
end TelegramDrive
