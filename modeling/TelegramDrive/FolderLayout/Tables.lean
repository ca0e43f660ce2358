import Mathlib.Algebra.Group.Int.Defs
import Mathlib.Algebra.GroupWithZero.Nat
import Mathlib.Data.List.Sort
import TelegramDrive.Library.OrderedMap

namespace TelegramDrive
namespace FolderLayout

/-!
# The shared tables of folders and groups

`groups` and `folder_metadata` describe the folders of one account.  Rows are kept in the
order of their primary keys, which is the order `read_tables` asks for, so the content of
both tables is a saved layout.  The database does not enforce the reference from a folder
to its group.

Every change is a list of statements that are executed one after another.  A statement
fails when it inserts a row under a key that has one.
-/

structure SavedGroup where
  id : Int
  name : String
  colorHex : Option String
  displayOrder : Int
deriving DecidableEq

structure SavedFolder where
  channelId : Int
  name : String
  username : Option String
  isPublic : Bool
  displayOrder : Int
  groupId : Option Int
deriving DecidableEq

abbrev GroupRows := OrderedMap Int SavedGroup SavedGroup.id
abbrev FolderRows := OrderedMap Int SavedFolder SavedFolder.channelId

structure SavedLayout where
  groups : GroupRows
  folders : FolderRows
deriving DecidableEq

def SavedLayout.empty : SavedLayout := ⟨.empty, .empty⟩

/-! ## Statements -/

inductive Statement
  | clearFolders
  | clearGroups
  | insertGroup (group : SavedGroup)
  | insertFolder (folder : SavedFolder)
  | setGroup (id : Int) (name colorHex : String)
  | setGroupOrder (id order : Int)
  | deleteGroup (id : Int)
  | ungroup (id : Int)
  | setFolderOrder (channelId order : Int)
  | setFolderGroup (channelId : Int) (groupId : Option Int)
  | setFolderName (channelId : Int) (name : String)
  | setFolderAccess (channelId : Int) (username : Option String) (isPublic : Bool)
  | setFolderDetails (channelId : Int) (name : String) (username : Option String) (isPublic : Bool)
  | deleteFolder (channelId : Int)
deriving DecidableEq

namespace SavedLayout

/-- `UPDATE groups SET … WHERE id = ?` -/
def updateGroup (layout : SavedLayout) (id : Int) (change : SavedGroup -> SavedGroup)
    (keeps : forall group, (change group).id = group.id) : SavedLayout :=
  { layout with groups := layout.groups.update (fun group => group.id == id) change keeps }

/-- `UPDATE folder_metadata SET … WHERE …` -/
def updateFolders (layout : SavedLayout) (selects : SavedFolder -> Bool)
    (change : SavedFolder -> SavedFolder) (keeps : forall folder, (change folder).channelId = folder.channelId) :
    SavedLayout :=
  { layout with folders := layout.folders.update selects change keeps }

def updateFolder (layout : SavedLayout) (channelId : Int) (change : SavedFolder -> SavedFolder)
    (keeps : forall folder, (change folder).channelId = folder.channelId) : SavedLayout :=
  layout.updateFolders (fun folder => folder.channelId == channelId) change keeps

/-- Execute one statement. -/
def run (layout : SavedLayout) : Statement -> Option SavedLayout
  | .clearFolders => some { layout with folders := .empty }
  | .clearGroups => some { layout with groups := .empty }
  | .insertGroup group =>
    (layout.groups.insertNew? group).map fun groups => { layout with groups := groups }
  | .insertFolder folder =>
    (layout.folders.insertNew? folder).map fun folders => { layout with folders := folders }
  | .setGroup id name colorHex =>
    some (layout.updateGroup id
      (fun group => { group with name := name, colorHex := some colorHex }) fun _ => rfl)
  | .setGroupOrder id order =>
    some (layout.updateGroup id (fun group => { group with displayOrder := order }) fun _ => rfl)
  | .deleteGroup id => some { layout with groups := layout.groups.erase id }
  | .ungroup id =>
    some (layout.updateFolders (fun folder => folder.groupId == some id)
      (fun folder => { folder with groupId := none }) fun _ => rfl)
  | .setFolderOrder channelId order =>
    some (layout.updateFolder channelId (fun folder => { folder with displayOrder := order }) fun _ => rfl)
  | .setFolderGroup channelId groupId =>
    some (layout.updateFolder channelId (fun folder => { folder with groupId := groupId }) fun _ => rfl)
  | .setFolderName channelId name =>
    some (layout.updateFolder channelId (fun folder => { folder with name := name }) fun _ => rfl)
  | .setFolderAccess channelId username isPublic =>
    some (layout.updateFolder channelId
      (fun folder => { folder with username := username, isPublic := isPublic }) fun _ => rfl)
  | .setFolderDetails channelId name username isPublic =>
    some (layout.updateFolder channelId
      (fun folder => { folder with name := name, username := username, isPublic := isPublic }) fun _ => rfl)
  | .deleteFolder channelId => some { layout with folders := layout.folders.erase channelId }

def runAll (layout : SavedLayout) (statements : List Statement) : Option SavedLayout :=
  statements.foldlM run layout

@[simp] theorem runAll_cons (layout : SavedLayout) (statement : Statement) (statements : List Statement) :
    layout.runAll (statement :: statements) = (layout.run statement).bind (runAll · statements) := rfl

theorem runAll_append (layout : SavedLayout) (before after : List Statement) :
    layout.runAll (before ++ after) = (layout.runAll before).bind (runAll · after) := by
  unfold runAll
  rw [List.foldlM_append]
  rfl

/-! ## Replacing both tables -/

/-- The statements of `write_tables`, inside its transaction. -/
def replaceStatements (layout : SavedLayout) : List Statement :=
  .clearFolders :: .clearGroups ::
    (layout.groups.items.map .insertGroup ++ layout.folders.items.map .insertFolder)

theorem runAll_insertGroup (layout : SavedLayout) (groups : List SavedGroup) :
    layout.runAll (groups.map .insertGroup) =
      (groups.foldlM OrderedMap.insertNew? layout.groups).map fun filled => { layout with groups := filled } := by
  induction groups generalizing layout with
  | nil => rfl
  | cons group groups ih =>
    rw [List.map_cons, runAll_cons, List.foldlM_cons, run]
    cases inserted : layout.groups.insertNew? group with
    | none => rfl
    | some next => exact ih { layout with groups := next }

theorem runAll_insertFolder (layout : SavedLayout) (folders : List SavedFolder) :
    layout.runAll (folders.map .insertFolder) =
      (folders.foldlM OrderedMap.insertNew? layout.folders).map fun filled =>
        { layout with folders := filled } := by
  induction folders generalizing layout with
  | nil => rfl
  | cons folder folders ih =>
    rw [List.map_cons, runAll_cons, List.foldlM_cons, run]
    cases inserted : layout.folders.insertNew? folder with
    | none => rfl
    | some next => exact ih { layout with folders := next }

/-- Whatever the tables held, afterwards they hold the layout that is put in place. -/
theorem runAll_replaceStatements (before layout : SavedLayout) :
    before.runAll layout.replaceStatements = some layout := by
  have groups := layout.groups.foldlM_insertNew?_items
  have folders := layout.folders.foldlM_insertNew?_items
  unfold replaceStatements
  rw [runAll_cons, run, Option.bind_some, runAll_cons, run, Option.bind_some, runAll_append,
    runAll_insertGroup, groups, Option.map_some, Option.bind_some, runAll_insertFolder, folders,
    Option.map_some]

end SavedLayout

/-! ## The tables of the database -/

/-- Both tables, and the counter from which `AUTOINCREMENT` takes the ids of groups. -/
structure Tables where
  layout : SavedLayout
  sequence : Int
deriving DecidableEq

namespace Tables

/-- The id that an inserted group is given. -/
def nextGroup (tables : Tables) : Int :=
  tables.layout.groups.keys.foldl max tables.sequence + 1

def run (tables : Tables) (statement : Statement) : Option Tables :=
  (tables.layout.run statement).map fun layout =>
    match statement with
    | .insertGroup group => ⟨layout, max tables.sequence group.id⟩
    | _ => ⟨layout, tables.sequence⟩

theorem run_layout {tables next : Tables} {statement : Statement} (ran : tables.run statement = some next) :
    tables.layout.run statement = some next.layout := by
  unfold run at ran
  rcases Option.map_eq_some_iff.mp ran with ⟨layout, done, same⟩
  rw [done, ← same]
  cases statement <;> rfl

end Tables

/-! ## Edit commands -/

/-- The value that a column read as `i32` gives. -/
def asI32 (value : Int) : Int := value.bmod (2 ^ 32)

structure FolderMetadata where
  id : Int
  parentId : Option Int
  name : String
  username : Option String
  isPublic : Bool
  groupId : Option Int
  displayOrder : Int
deriving DecidableEq

/-- The largest of some orders, and zero when there is none. -/
def maxOrder (orders : List Int) : Int :=
  match orders with
  | [] => 0
  | first :: rest => rest.foldl max first

/-- The commands that change the tables, once Telegram has done its part of them. -/
inductive Edit
  | updateFolderOrder (channelId newOrder : Int)
  | createGroup (name colorHex : String)
  | updateGroup (groupId : Int) (name colorHex : String)
  | deleteGroup (groupId : Int)
  | assignFolderToGroup (channelId : Int) (groupId : Option Int)
  | updateGroupOrder (groupId newOrder : Int)
  | createFolder (folder : FolderMetadata)
  | deleteFolder (folderId : Int)
  | renameFolder (folderId : Int) (newName : String)
  | toggleFolderVisibility (folder : FolderMetadata)
deriving DecidableEq

/-- What a command executes on the tables it finds. -/
def Edit.statements (tables : Tables) : Edit -> List Statement
  | .updateFolderOrder channelId newOrder => [.setFolderOrder channelId newOrder]
  | .createGroup name colorHex =>
    let displayOrder := maxOrder (tables.layout.groups.items.map SavedGroup.displayOrder) + 1
    [.insertGroup ⟨tables.nextGroup, name, some colorHex, displayOrder⟩]
  | .updateGroup groupId name colorHex => [.setGroup groupId name colorHex]
  | .deleteGroup groupId => [.deleteGroup groupId, .ungroup groupId]
  | .assignFolderToGroup channelId groupId => [.setFolderGroup channelId groupId]
  | .updateGroupOrder groupId newOrder => [.setGroupOrder groupId newOrder]
  | .createFolder folder =>
    let displayOrder := maxOrder (tables.layout.folders.items.map SavedFolder.displayOrder) + 1
    [.insertFolder ⟨folder.id, folder.name, folder.username, folder.isPublic, displayOrder, none⟩]
  | .deleteFolder folderId => [.deleteFolder folderId]
  | .renameFolder folderId newName => [.setFolderName folderId newName]
  | .toggleFolderVisibility folder => [.setFolderAccess folder.id folder.username folder.isPublic]

/-! ## Folder scans -/

/-- Merge the folders that Telegram lists, each with the statement that stores it. -/
def mergeFolders (known : FolderRows) : Int -> List FolderMetadata -> List (FolderMetadata × Statement)
  | _, [] => []
  | highest, folder :: rest =>
    match known.find? folder.id with
    | some row =>
      ({ folder with displayOrder := asI32 row.displayOrder, groupId := row.groupId.map asI32 },
        .setFolderDetails folder.id folder.name folder.username folder.isPublic) ::
          mergeFolders known highest rest
    | none =>
      let order := asI32 (highest + 1)
      ({ folder with displayOrder := order, groupId := none },
        .insertFolder ⟨folder.id, folder.name, folder.username, folder.isPublic, order, none⟩) ::
          mergeFolders known order rest

/-- The statements of `get_enriched_folders_internal`.  Folders that Telegram no longer
lists are deleted in the order in which a hash map visits the known ones. -/
def scanStatements (known : FolderRows) (folders : List FolderMetadata) (visited : List Int) :
    List (FolderMetadata × Statement) × List Statement :=
  let highest := maxOrder (known.items.map fun row => asI32 row.displayOrder)
  (mergeFolders known highest folders,
    (visited.filter fun id => !(folders.map FolderMetadata.id).contains id).map .deleteFolder)

/-- Absent before present, and present ones in their order. -/
def optionBefore (before : Int -> Int -> Bool) : Option Int -> Option Int -> Bool
  | none, _ => true
  | some _, none => false
  | some one, some two => before one two

/-- The order of the folders that a scan returns. -/
def scannedBefore (groups : GroupRows) (one two : FolderMetadata) : Bool :=
  let position : FolderMetadata -> Int := fun folder =>
    ((folder.groupId.bind fun id => (groups.items.filter fun group => asI32 group.id == id).getLast?).map
      fun group => asI32 group.displayOrder).getD (2 ^ 31 - 1)
  if position one ≠ position two then decide (position one < position two)
  else if one.groupId ≠ two.groupId then optionBefore (fun left right => decide (left ≤ right)) one.groupId two.groupId
  else decide (one.displayOrder ≤ two.displayOrder)

/-- What a scan returns. -/
def scannedFolders (groups : GroupRows) (merged : List FolderMetadata) : List FolderMetadata :=
  merged.insertionSort fun one two => scannedBefore groups one two = true

/-! ## Queries -/

/-- The order of `enriched_folders`: folders without a group last. -/
def enrichedBefore (groups : GroupRows) (one two : SavedFolder) : Bool :=
  let position : SavedFolder -> Option Int := fun folder =>
    (folder.groupId.bind groups.find?).map SavedGroup.displayOrder
  if one.groupId.isNone ≠ two.groupId.isNone then two.groupId.isNone
  else if position one ≠ position two then
    optionBefore (fun left right => decide (left ≤ right)) (position one) (position two)
  else decide (one.displayOrder ≤ two.displayOrder)

def enrichedFolders (layout : SavedLayout) : List FolderMetadata :=
  (layout.folders.items.insertionSort fun one two => enrichedBefore layout.groups one two = true).map fun row =>
    ⟨row.channelId, none, row.name, row.username, row.isPublic, row.groupId.map asI32, asI32 row.displayOrder⟩

structure FolderGroup where
  id : Int
  name : String
  colorHex : String
  displayOrder : Int
deriving DecidableEq

/-- `list_groups`, which fails on a group without a colour. -/
def listGroups (layout : SavedLayout) : Option (List FolderGroup) :=
  (layout.groups.items.insertionSort fun one two => one.displayOrder ≤ two.displayOrder).mapM fun row =>
    row.colorHex.map fun colorHex => ⟨asI32 row.id, row.name, colorHex, asI32 row.displayOrder⟩

end FolderLayout
end TelegramDrive
