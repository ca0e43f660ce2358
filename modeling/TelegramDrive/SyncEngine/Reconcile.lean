import TelegramDrive.SyncEngine.IgnoredPaths
import TelegramDrive.SyncEngine.Planner

namespace TelegramDrive
namespace SyncEngine

/-!
# What a cycle writes to the recorded state

A cycle touches the `sync_state` table only through the four statements of
`StateWrite`.  Each phase of the cycle is a list of such writes, in the order
of the source, so the table after a phase is the table before it with the list
applied.  Every write concerns one path; `stateWrites` records that, and the
rules about batches of keyed updates apply.

A clock gives the second at which the row of a path is written, since
`upsert_state` reads the time when it runs and not when the file was scanned.
-/

/-! ## Statements -/

inductive StateWrite
  | upsert (relativePath : String) (row : SyncedEntry)
  | delete (relativePath : String)
  | setStatus (relativePath : String) (status : SyncStatus)
  | refreshMetadata (relativePath : String) (entry : TreeEntry)
deriving DecidableEq

namespace StateWrite

def path : StateWrite -> String
  | upsert relativePath _ => relativePath
  | delete relativePath => relativePath
  | setStatus relativePath _ => relativePath
  | refreshMetadata relativePath _ => relativePath

/-- `UPDATE ... WHERE local_hash = ? AND sync_status = 'synced'`. -/
def refreshed (entry : TreeEntry) (row : SyncedEntry) : SyncedEntry :=
  if row.localHash = some entry.hash ∧ row.syncStatus = .synced then
    { row with fileSize := entry.fileSize, localMtime := entry.modifiedAt }
  else row

/-- What the statement makes of the row of its path. -/
def effect : StateWrite -> Option SyncedEntry -> Option SyncedEntry
  | upsert _ row, _ => some row
  | delete _, _ => none
  | setStatus _ status, previous =>
    previous.map fun row => { row with syncStatus := status }
  | refreshMetadata _ entry, previous => previous.map (refreshed entry)

end StateWrite

def stateWrites : KeyedUpdates SyncedTree String (Option SyncedEntry) StateWrite where
  look rows path := rows[path]?
  key := StateWrite.path
  effect := StateWrite.effect
  apply rows write := rows.alter write.path write.effect
  look_apply_same rows write := by simp
  look_apply_other rows write other different := by
    simp [Std.TreeMap.getElem?_alter, different]

/-- The table after a list of statements. -/
def applyWrites (rows : SyncedTree) (writes : List StateWrite) : SyncedTree :=
  stateWrites.applyAll rows writes

theorem applyWrites_append (rows : SyncedTree) (before after : List StateWrite) :
    applyWrites rows (before ++ after) = applyWrites (applyWrites rows before) after :=
  stateWrites.applyAll_append rows before after

variable {writes : List StateWrite}

theorem applyWrites_of_absent (rows : SyncedTree) {path : String}
    (absent : forall write, write ∈ writes -> write.path ≠ path) :
    (applyWrites rows writes)[path]? = rows[path]? :=
  stateWrites.look_applyAll_of_absent rows absent

/-- The row of a path that exactly one statement of the list concerns. -/
theorem applyWrites_of_mem (rows : SyncedTree)
    (distinct : (writes.map StateWrite.path).Nodup) {write : StateWrite} (member : write ∈ writes) :
    (applyWrites rows writes)[write.path]? = write.effect rows[write.path]? :=
  stateWrites.look_applyAll_of_mem rows distinct member

/-- The row of a path after one statement. -/
theorem applyWrites_singleton (rows : SyncedTree) (write : StateWrite) (path : String) :
    (applyWrites rows [write])[path]? =
      if write.path = path then write.effect rows[path]? else rows[path]? := by
  split
  next same =>
    subst same
    exact stateWrites.look_apply_same rows write
  next different => exact stateWrites.look_apply_other rows write path different

theorem applyWrites_invariant (property : Option SyncedEntry -> Prop) (rows : SyncedTree)
    {path : String}
    (preserved : forall write, write ∈ writes -> write.path = path -> forall row, property row ->
      property (write.effect row))
    (start : property rows[path]?) : property (applyWrites rows writes)[path]? :=
  stateWrites.look_applyAll_invariant property rows preserved start

/-- `upsert_state`: the size of either copy, and the local time if settled `now`. -/
def upsertState (relativePath : String) (localEntry remoteEntry : Option TreeEntry)
    (status : SyncStatus) (now : Int) : StateWrite :=
  .upsert relativePath
    { localHash := localEntry.map (·.hash)
      remoteHash := remoteEntry.map (·.hash)
      fileSize := ((localEntry.or remoteEntry).map (·.fileSize)).getD 0
      localMtime := settledMtime (localEntry.bind (·.modifiedAt)) now
      remoteDate := remoteEntry.bind (·.modifiedAt)
      messageId := remoteEntry.bind (·.messageId)
      syncStatus := status }

@[simp] theorem upsertState_path (relativePath : String) (localEntry remoteEntry : Option TreeEntry)
    (status : SyncStatus) (now : Int) :
    (upsertState relativePath localEntry remoteEntry status now).path = relativePath := rfl

/-! ## Preparation -/

structure SyncPair where
  syncDirection : Direction
  preferences : SyncPreferences

/-- What one cycle decided before it touches Telegram or the local folder. -/
structure PreparedReconciliation where
  localTree : FileTree
  remoteTree : FileTree
  synced : SyncedTree
  operations : List SyncOperation
  conflicts : Nat
  hashed : Nat
  reused : Nat
  baselined : List String

/-- The rows of paths that exist on neither side go. -/
def vanishedWrites (localTree remoteTree : FileTree) (synced : SyncedTree) : List StateWrite :=
  (synced.keys.filter fun path => !localTree.contains path && !remoteTree.contains path).map .delete

/-- The recorded tree after completed and adopted baselines, and their paths. -/
def baseline (preferences : SyncPreferences) (localTree remoteTree : FileTree)
    (synced : SyncedTree) : SyncedTree × List String :=
  let resumed := resumeInterruptedUploads localTree remoteTree synced
  if preferences.adoptMatchingFiles then
    let adopted := adoptMatchingFiles localTree remoteTree resumed.1
    (adopted.1, resumed.2 ++ adopted.2)
  else resumed

def baselineWrites (clock : String -> Int) (localTree remoteTree : FileTree)
    (baselined : List String) : List StateWrite :=
  baselined.map fun path => upsertState path localTree[path]? remoteTree[path]? .synced (clock path)

def refreshWrites (localTree : FileTree) (refreshMetadata : List (String × TreeEntry)) :
    List StateWrite :=
  (refreshMetadata.filter fun entry => localTree.contains entry.1).map fun entry =>
    .refreshMetadata entry.1 entry.2

/-- The statements of a preparation before its plan. -/
def bookkeepingWrites (preferences : SyncPreferences) (clock : String -> Int) (scan : LocalScan)
    (trees : FileTree × FileTree × SyncedTree) : List StateWrite :=
  vanishedWrites trees.1 trees.2.1 trees.2.2 ++
    baselineWrites clock trees.1 trees.2.1 (baseline preferences trees.1 trees.2.1 trees.2.2).2 ++
      refreshWrites trees.1 scan.refreshMetadata

/-- A planned conflict marks its row, or records both copies as it saw them. -/
def conflictWrite (clock : String -> Int) (localTree remoteTree : FileTree) (synced : SyncedTree)
    (path : String) : StateWrite :=
  if path ∈ synced then .setStatus path .conflict
  else upsertState path localTree[path]? remoteTree[path]? .conflict (clock path)

@[simp] theorem conflictWrite_path {clock : String -> Int} {localTree remoteTree : FileTree}
    {synced : SyncedTree} {path : String} :
    (conflictWrite clock localTree remoteTree synced path).path = path := by
  unfold conflictWrite
  split <;> rfl

def conflictWrites (clock : String -> Int) (localTree remoteTree : FileTree) (synced : SyncedTree)
    (operations : List SyncOperation) : List StateWrite :=
  (operations.filter SyncOperation.isConflict).map fun operation =>
    conflictWrite clock localTree remoteTree synced operation.path

/-- `prepare_reconciliation`, from the scan on: the statements it ran, and what
it decided.  A plan stopped by the deletion guard leaves the statements before it. -/
def prepareReconciliation (pair : SyncPair) (clock : String -> Int) (scan : LocalScan)
    (rows : SyncedTree) (remote : FileTree) :
    List StateWrite × Except SyncError PreparedReconciliation :=
  let trees := retainTreePaths pair.preferences (scan.tree, remote, rows)
  let (localTree, remoteTree, synced) := trees
  let baselined := baseline pair.preferences localTree remoteTree synced
  let writes := bookkeepingWrites pair.preferences clock scan trees
  match planForPolicy localTree remoteTree baselined.1 pair.syncDirection
      pair.preferences.propagateDeletions with
  | .error error => (writes, .error error)
  | .ok operations =>
    (writes ++ conflictWrites clock localTree remoteTree baselined.1 operations,
      .ok
        { localTree := localTree
          remoteTree := remoteTree
          synced := baselined.1
          operations := operations
          conflicts := operations.countP SyncOperation.isConflict
          hashed := scan.hashed
          reused := scan.reused
          baselined := baselined.2 })

/-- A skip still has something to record when its path has no row, or when it has
both copies and a row that records other hashes. -/
def unsettledSkip (localEntry remoteEntry : Option TreeEntry) (previous : Option SyncedEntry) :
    Bool :=
  match localEntry, remoteEntry, previous with
  | _, _, none => true
  | some localEntry, some remoteEntry, some previous =>
    decide (previous.localHash ≠ some localEntry.hash ∨
      previous.remoteHash ≠ some remoteEntry.hash)
  | _, _, some _ => false

/-- Whether `drop_settled_skips` retains an operation. -/
def unsettled (prepared : PreparedReconciliation) (operation : SyncOperation) : Bool :=
  !operation.isSkip ||
    unsettledSkip prepared.localTree[operation.path]? prepared.remoteTree[operation.path]?
      prepared.synced[operation.path]?

/-- `drop_settled_skips`. -/
def dropSettledSkips (prepared : PreparedReconciliation) : PreparedReconciliation :=
  { prepared with operations := prepared.operations.filter (unsettled prepared) }

/-- `actionable_operations`: those that need a transfer or a deletion. -/
def actionableOperations (operations : List SyncOperation) : Nat :=
  operations.countP fun operation => !operation.isSkip && !operation.isConflict

/-! ## Results -/

/-- The texts of `action` in an execution result. -/
inductive Action
  | upload
  | download
  | keepBoth
  | deleteLocal
  | deleteRemote
  | conflict
  | skip
deriving DecidableEq

def SyncOperation.action : SyncOperation -> Action
  | .upload _ _ => .upload
  | .download _ _ true _ => .keepBoth
  | .download _ _ false _ => .download
  | .deleteLocal _ _ => .deleteLocal
  | .deleteRemote _ _ _ => .deleteRemote
  | .conflict _ => .conflict
  | .skip _ => .skip

structure ExecutionResult where
  relativePath : String
  action : Action
  success : Bool
  detail : Option String
  messageId : Option Int
  localHash : Option String
deriving DecidableEq

/-- The row of an upload whose fingerprint is not yet known: an empty remote hash. -/
def journalUpload (relativePath : String) (localEntry : TreeEntry) (messageId now : Int) :
    StateWrite :=
  upsertState relativePath (some localEntry)
    (some { localEntry with messageId := some messageId, hash := "" }) .syncing now

@[simp] theorem journalUpload_path (relativePath : String) (localEntry : TreeEntry)
    (messageId now : Int) : (journalUpload relativePath localEntry messageId now).path = relativePath :=
  rfl

def journalUploads (clock : String -> Int) (localTree : FileTree) (results : List ExecutionResult) :
    List StateWrite :=
  (results.filter fun result => result.success && decide (result.action = .upload)).filterMap
    fun result =>
      match result.messageId, localTree[result.relativePath]? with
      | some messageId, some localEntry =>
        some (journalUpload result.relativePath localEntry messageId (clock result.relativePath))
      | _, _ => none

/-- `str::contains`. -/
def containsText (text needle : String) : Bool := decide (needle.toList <:+: text.toList)

def failureStatus (result : ExecutionResult) : SyncStatus :=
  if result.action = .conflict then .conflict
  else if result.detail.any (containsText · "VAULT_LOCKED") then .pausedVault
  else if result.action = .upload ∧ result.detail.any (fun detail =>
      containsText detail "Telegram sync limit" || containsText detail "Telegram size limit") then
    .skipped
  else .error

/-- The local copy a download left: the downloaded hash, and no time yet. -/
def verifiedDownload (remoteEntry : Option TreeEntry) (localHash : Option String) :
    Option TreeEntry :=
  match localHash, remoteEntry with
  | some hash, some remoteEntry =>
    some { remoteEntry with hash := hash, messageId := none, modifiedAt := none }
  | _, _ => none

/-- One round of the loop of `record_results`; an upload that was not read back
writes nothing. -/
def recordResult (clock : String -> Int) (prepared : PreparedReconciliation) (uploaded : FileTree)
    (result : ExecutionResult) : Option StateWrite :=
  let path := result.relativePath
  let localEntry := prepared.localTree[path]?
  let remoteEntry := prepared.remoteTree[path]?
  if !result.success then
    if path ∈ prepared.synced then some (.setStatus path (failureStatus result))
    else some (upsertState path localEntry remoteEntry (failureStatus result) (clock path))
  else
    match result.action with
    | .upload =>
      uploaded[path]?.map fun uploadedEntry =>
        upsertState path localEntry (some uploadedEntry) .synced (clock path)
    | .download =>
      some (upsertState path (verifiedDownload remoteEntry result.localHash) remoteEntry .synced
        (clock path))
    | .deleteLocal | .deleteRemote => some (.delete path)
    | .keepBoth | .skip | .conflict =>
      match localEntry, remoteEntry with
      | none, none => some (.delete path)
      | localEntry, remoteEntry =>
        some (upsertState path localEntry remoteEntry .synced (clock path))

def recordResults (clock : String -> Int) (prepared : PreparedReconciliation)
    (results : List ExecutionResult) (uploaded : FileTree) : List StateWrite :=
  results.filterMap (recordResult clock prepared uploaded)

theorem recordResult_path {clock : String -> Int} {prepared : PreparedReconciliation}
    {uploaded : FileTree} {result : ExecutionResult} {write : StateWrite}
    (recorded : recordResult clock prepared uploaded result = some write) :
    write.path = result.relativePath := by
  unfold recordResult at recorded
  grind [StateWrite.path, upsertState]

/-- A copy kept beside the other, a skip and a conflict are recorded with both copies. -/
theorem recordResult_bothCopies {clock : String -> Int} {prepared : PreparedReconciliation}
    {uploaded : FileTree} {result : ExecutionResult} {write : StateWrite}
    (success : result.success = true)
    (action : result.action = .keepBoth ∨ result.action = .skip ∨ result.action = .conflict)
    (recorded : recordResult clock prepared uploaded result = some write) :
    (prepared.remoteTree[result.relativePath]? = none ∧ write = .delete result.relativePath) ∨
      write = upsertState result.relativePath prepared.localTree[result.relativePath]?
        prepared.remoteTree[result.relativePath]? .synced (clock result.relativePath) := by
  unfold recordResult at recorded
  rw [success, Bool.not_true, if_neg Bool.false_ne_true] at recorded
  rcases action with action | action | action <;> rw [action] at recorded <;> dsimp only at recorded <;>
    split at recorded <;> cases recorded <;> grind

/-! ## Rows path by path -/

section Retained

variable (preferences : SyncPreferences) (trees : FileTree × FileTree × SyncedTree) (path : String)

private theorem getElem?_filter_ignored {Entry : Type} (tree : Std.TreeMap String Entry) :
    (tree.filter fun path _ => !preferences.ignores path)[path]? =
      if preferences.ignores path then none else tree[path]? := by
  rw [Std.TreeMap.getElem?_filter']
  cases tree[path]? <;> cases preferences.ignores path <;> rfl

theorem retainTreePaths_local : (retainTreePaths preferences trees).1[path]? =
    if preferences.ignores path then none else trees.1[path]? :=
  getElem?_filter_ignored preferences path trees.1

theorem retainTreePaths_remote : (retainTreePaths preferences trees).2.1[path]? =
    if preferences.ignores path then none else trees.2.1[path]? :=
  getElem?_filter_ignored preferences path trees.2.1

theorem retainTreePaths_synced : (retainTreePaths preferences trees).2.2[path]? =
    if preferences.ignores path then none else trees.2.2[path]? :=
  getElem?_filter_ignored preferences path trees.2.2

end Retained

/-- The row of a path after completed uploads. -/
def resumedRow (localEntry remoteEntry : Option TreeEntry) (previous : Option SyncedEntry) :
    Option SyncedEntry :=
  previous.map fun previous => (resumedEntry localEntry remoteEntry previous).getD previous

/-- The row of a path after completed and adopted baselines. -/
def baselineRow (preferences : SyncPreferences) (localEntry remoteEntry : Option TreeEntry)
    (previous : Option SyncedEntry) : Option SyncedEntry :=
  if preferences.adoptMatchingFiles then
    (adoptedEntry localEntry remoteEntry (resumedRow localEntry remoteEntry previous)).or
      (resumedRow localEntry remoteEntry previous)
  else resumedRow localEntry remoteEntry previous

/-- Whether a path is baselined: its row is completed, or adopted after that. -/
def isBaselined (preferences : SyncPreferences) (localEntry remoteEntry : Option TreeEntry)
    (previous : Option SyncedEntry) : Prop :=
  (previous.bind (resumedEntry localEntry remoteEntry)).isSome ∨
    (preferences.adoptMatchingFiles = true ∧
      (adoptedEntry localEntry remoteEntry (resumedRow localEntry remoteEntry previous)).isSome)

theorem resumeInterruptedUploads_row (localTree remoteTree : FileTree) (synced : SyncedTree)
    (path : String) :
    (resumeInterruptedUploads localTree remoteTree synced).1[path]? =
      resumedRow localTree[path]? remoteTree[path]? synced[path]? := by
  rw [resumeInterruptedUploads, resumedRow, Std.TreeMap.getElem?_map]

theorem adoptMatchingFiles_row (localTree remoteTree : FileTree) (synced : SyncedTree)
    (path : String) :
    (adoptMatchingFiles localTree remoteTree synced).1[path]? =
      (adoptedEntry localTree[path]? remoteTree[path]? synced[path]?).or synced[path]? := by
  let updates := adoptions localTree remoteTree
  by_cases present : path ∈ localTree.keys
  · have distinct : (localTree.keys.map updates.key).Nodup := by
      simpa [updates, adoptions] using Std.TreeMap.nodup_keys
    exact updates.look_applyAll_of_mem synced distinct present
  · have absent : localTree[path]? = none :=
      Std.TreeMap.getElem?_eq_none fun member => present (Std.TreeMap.mem_keys.mpr member)
    have kept : updates.look (updates.applyAll synced localTree.keys) path =
        updates.look synced path :=
      updates.look_applyAll_of_absent synced fun item member same => present (same ▸ member)
    rw [absent]
    exact kept

theorem baseline_row (preferences : SyncPreferences) (localTree remoteTree : FileTree)
    (synced : SyncedTree) (path : String) :
    (baseline preferences localTree remoteTree synced).1[path]? =
      baselineRow preferences localTree[path]? remoteTree[path]? synced[path]? := by
  unfold baseline baselineRow
  split
  · rw [adoptMatchingFiles_row, resumeInterruptedUploads_row]
  · exact resumeInterruptedUploads_row localTree remoteTree synced path

theorem mem_baseline_paths (preferences : SyncPreferences) (localTree remoteTree : FileTree)
    (synced : SyncedTree) (path : String) :
    path ∈ (baseline preferences localTree remoteTree synced).2 ↔
      isBaselined preferences localTree[path]? remoteTree[path]? synced[path]? := by
  have resumed : path ∈ (resumeInterruptedUploads localTree remoteTree synced).2 ↔
      (synced[path]?.bind (resumedEntry localTree[path]? remoteTree[path]?)).isSome := by
    rw [resumeInterruptedUploads, List.mem_filter, Std.TreeMap.mem_keys, and_iff_right_iff_imp]
    intro some
    by_contra absent
    simp [Std.TreeMap.getElem?_eq_none absent] at some
  have adopted : path ∈ (adoptMatchingFiles localTree remoteTree
        (resumeInterruptedUploads localTree remoteTree synced).1).2 ↔
      (adoptedEntry localTree[path]? remoteTree[path]?
        (resumedRow localTree[path]? remoteTree[path]? synced[path]?)).isSome := by
    rw [adoptMatchingFiles, List.mem_filter, Std.TreeMap.mem_keys, resumeInterruptedUploads_row,
      and_iff_right_iff_imp]
    intro some
    by_contra absent
    simp [Std.TreeMap.getElem?_eq_none absent, adoptedEntry] at some
  unfold baseline isBaselined
  split
  next adopting => rw [List.mem_append, resumed, adopted, adopting, eq_self, true_and]
  next adopting => rw [resumed, iff_self_or]; exact fun impossible => absurd impossible.1 adopting

/-- A baselined path has both copies, and its row records them as in sync. -/
theorem baselineRow_of_baselined {preferences : SyncPreferences}
    {localEntry remoteEntry : Option TreeEntry} {previous : Option SyncedEntry}
    (baselined : isBaselined preferences localEntry remoteEntry previous) :
    Exists fun one => Exists fun two => Exists fun row =>
      localEntry = some one ∧ remoteEntry = some two ∧
        baselineRow preferences localEntry remoteEntry previous = some row ∧
        row.localHash = some one.hash ∧ row.remoteHash = some two.hash ∧
        row.messageId = two.messageId ∧ row.syncStatus = .synced := by
  have adopted : forall {before : Option SyncedEntry} {row : SyncedEntry},
      adoptedEntry localEntry remoteEntry before = some row ->
      Exists fun one => Exists fun two => localEntry = some one ∧ remoteEntry = some two ∧
        row.localHash = some one.hash ∧ row.remoteHash = some two.hash ∧
        row.messageId = two.messageId ∧ row.syncStatus = .synced := by
    intro before row adopted
    unfold adoptedEntry at adopted
    grind
  unfold isBaselined at baselined
  by_cases adopting : preferences.adoptMatchingFiles = true ∧
      (adoptedEntry localEntry remoteEntry (resumedRow localEntry remoteEntry previous)).isSome
  · rcases Option.isSome_iff_exists.mp adopting.2 with ⟨row, entry⟩
    rcases adopted entry with ⟨one, two, sameLocal, sameRemote, rest⟩
    refine ⟨one, two, row, sameLocal, sameRemote, ?_, rest⟩
    rw [baselineRow, if_pos adopting.1, entry, Option.some_or]
  · have resumes := baselined.resolve_right adopting
    rcases previous with _ | previous
    · cases resumes
    rw [Option.bind_some] at resumes
    rcases Option.isSome_iff_exists.mp resumes with ⟨row, entry⟩
    have kept : baselineRow preferences localEntry remoteEntry (some previous) = some row := by
      have resumed : resumedRow localEntry remoteEntry (some previous) = some row := by
        rw [resumedRow, Option.map_some, entry, Option.getD_some]
      rw [resumed] at adopting
      rw [baselineRow, resumed]
      split
      next on =>
        rw [not_and, Option.not_isSome_iff_eq_none] at adopting
        rw [adopting on, Option.none_or]
      · rfl
    unfold resumedEntry at entry
    rcases localEntry with _ | one <;> rcases remoteEntry with _ | two <;> try cases entry
    refine ⟨one, two, row, rfl, rfl, kept, ?_⟩
    grind

theorem baselineRow_of_not_baselined {preferences : SyncPreferences}
    {localEntry remoteEntry : Option TreeEntry} {previous : Option SyncedEntry}
    (plain : ¬isBaselined preferences localEntry remoteEntry previous) :
    baselineRow preferences localEntry remoteEntry previous = previous := by
  rw [isBaselined, not_or, not_and, Option.not_isSome_iff_eq_none] at plain
  have resumed : resumedRow localEntry remoteEntry previous = previous := by
    rcases previous with _ | previous
    · rfl
    · have none := plain.1
      rw [Option.bind_some] at none
      rw [resumedRow, Option.map_some, none, Option.getD_none]
  rw [baselineRow, resumed]
  split
  next on =>
    have none := plain.2 on
    rw [resumed, Option.not_isSome_iff_eq_none] at none
    rw [none, Option.none_or]
  · rfl

/-! ## What an accepted preparation decided -/

/-- The parts of an accepted preparation, read off the retained trees. -/
structure PreparedFrom (pair : SyncPair) (clock : String -> Int) (scan : LocalScan)
    (trees : FileTree × FileTree × SyncedTree) (writes : List StateWrite)
    (prepared : PreparedReconciliation) : Prop where
  localTree : prepared.localTree = trees.1
  remoteTree : prepared.remoteTree = trees.2.1
  synced : prepared.synced = (baseline pair.preferences trees.1 trees.2.1 trees.2.2).1
  operations : prepared.operations = operationsForPolicy prepared.localTree prepared.remoteTree
    prepared.synced pair.syncDirection pair.preferences.propagateDeletions
  written : writes = bookkeepingWrites pair.preferences clock scan trees ++
    conflictWrites clock prepared.localTree prepared.remoteTree prepared.synced prepared.operations

theorem enforceMassDeletion_ok {operations accepted : List SyncOperation} {synced : SyncedTree}
    (passed : enforceMassDeletion operations synced = .ok accepted) : accepted = operations := by
  unfold enforceMassDeletion at passed
  simp only at passed
  split at passed
  · cases passed
  · exact (Except.ok.inj passed).symm

theorem prepareReconciliation_ok {pair : SyncPair} {clock : String -> Int} {scan : LocalScan}
    {rows : SyncedTree} {remote : FileTree}
    {prepared : PreparedReconciliation}
    (accepted : prepareReconciliation pair clock scan rows remote = (writes, .ok prepared)) :
    PreparedFrom pair clock scan (retainTreePaths pair.preferences (scan.tree, remote, rows)) writes
      prepared := by
  unfold prepareReconciliation at accepted
  simp only at accepted
  split at accepted
  · cases accepted
  next operations planned =>
    rw [Prod.mk.injEq, Except.ok.injEq] at accepted
    rcases accepted with ⟨rfl, rfl⟩
    exact ⟨rfl, rfl, rfl, enforceMassDeletion_ok planned, rfl⟩


section Accepted

variable {pair : SyncPair} {clock : String -> Int} {scan : LocalScan} {rows : SyncedTree}
  {remote : FileTree} {writes : List StateWrite} {prepared : PreparedReconciliation}

theorem PreparedFrom.entries
    (from_ : PreparedFrom pair clock scan
      (retainTreePaths pair.preferences (scan.tree, remote, rows)) writes prepared)
    {path : String} (kept : pair.preferences.ignores path = false) :
    prepared.localTree[path]? = scan.tree[path]? ∧ prepared.remoteTree[path]? = remote[path]? ∧
      prepared.synced[path]? =
        baselineRow pair.preferences scan.tree[path]? remote[path]? rows[path]? := by
  have localKept : (retainTreePaths pair.preferences (scan.tree, remote, rows)).1[path]? =
      scan.tree[path]? := by
    rw [retainTreePaths_local, kept, if_neg Bool.false_ne_true]
  have remoteKept : (retainTreePaths pair.preferences (scan.tree, remote, rows)).2.1[path]? =
      remote[path]? := by
    rw [retainTreePaths_remote, kept, if_neg Bool.false_ne_true]
  have rowKept : (retainTreePaths pair.preferences (scan.tree, remote, rows)).2.2[path]? =
      rows[path]? := by
    rw [retainTreePaths_synced, kept, if_neg Bool.false_ne_true]
  rw [from_.localTree, from_.remoteTree, from_.synced, baseline_row, localKept, remoteKept, rowKept]
  exact ⟨rfl, rfl, rfl⟩

theorem PreparedFrom.entries_ignored
    (from_ : PreparedFrom pair clock scan
      (retainTreePaths pair.preferences (scan.tree, remote, rows)) writes prepared)
    {path : String} (ignored : pair.preferences.ignores path = true) :
    prepared.localTree[path]? = none ∧ prepared.remoteTree[path]? = none := by
  rw [from_.localTree, from_.remoteTree, retainTreePaths_local, retainTreePaths_remote, ignored]
  exact ⟨if_pos rfl, if_pos rfl⟩

theorem PreparedFrom.planned
    (from_ : PreparedFrom pair clock scan
      (retainTreePaths pair.preferences (scan.tree, remote, rows)) writes prepared)
    {operation : SyncOperation} (member : operation ∈ prepared.operations) :
    pair.preferences.ignores operation.path = false ∧
      operationAt pair.syncDirection pair.preferences.propagateDeletions operation.path
        prepared.localTree[operation.path]? prepared.remoteTree[operation.path]?
        prepared.synced[operation.path]? = some operation := by
  rw [from_.operations] at member
  have planned := mem_operationsForPolicy.mp member
  refine ⟨?_, planned⟩
  rw [Bool.eq_false_iff]
  intro ignored
  rw [(from_.entries_ignored ignored).1, (from_.entries_ignored ignored).2, operationAt_absent]
    at planned
  cases planned

theorem PreparedFrom.distinct
    (from_ : PreparedFrom pair clock scan
      (retainTreePaths pair.preferences (scan.tree, remote, rows)) writes prepared)
    {one two : SyncOperation} (first : one ∈ prepared.operations) (second : two ∈ prepared.operations)
    (same : one.path = two.path) : one = two := by
  have here := (from_.planned first).2
  rw [same, (from_.planned second).2] at here
  exact (Option.some.inj here).symm

end Accepted

end SyncEngine
end TelegramDrive
