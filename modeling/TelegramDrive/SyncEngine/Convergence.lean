import TelegramDrive.Library.Results
import TelegramDrive.SyncEngine.Execution

namespace TelegramDrive
namespace SyncEngine

/-!
# A completed cycle leaves nothing to do

A cycle is completed when its plan was accepted, every operation succeeded, the
uploads were read back and the outcome was recorded.  The next cycle over the
same files then plans skips only, and each of them is settled.

The planner reads of a row the two hashes and the status, and the baselines
also its message id.  `SameRecord` compares rows by these, since the size and
the times that a row carries depend on when it was written.  A completed cycle
does not make the table final in that respect: the next scan fills in the
modification time of a file that was recorded too early to trust it.
-/

/-! ## Rows up to sizes and times -/

/-- The fields of a row that planning reads. -/
def SyncedEntry.record (row : SyncedEntry) :
    Option String × Option String × Option Int × SyncStatus :=
  (row.localHash, row.remoteHash, row.messageId, row.syncStatus)

def SameRecord (first second : Option SyncedEntry) : Prop :=
  first.map SyncedEntry.record = second.map SyncedEntry.record

theorem SameRecord.refl (row : Option SyncedEntry) : SameRecord row row := rfl

variable {first second : Option SyncedEntry}

/-- Rows with one record are both absent, or agree field by field. -/
theorem SameRecord.cases (same : SameRecord first second) :
    (first = none ∧ second = none) ∨ Exists fun one => Exists fun two =>
      first = some one ∧ second = some two ∧ one.localHash = two.localHash ∧
        one.remoteHash = two.remoteHash ∧ one.messageId = two.messageId ∧
          one.syncStatus = two.syncStatus := by
  rcases first with _ | one <;> rcases second with _ | two <;>
    simp_all [SameRecord, SyncedEntry.record]

variable {path : String} {localEntry remoteEntry : Option TreeEntry}

theorem operationAt_congr {direction : Direction} {propagateDeletions : Bool}
    (same : SameRecord first second) :
    operationAt direction propagateDeletions path localEntry remoteEntry first =
      operationAt direction propagateDeletions path localEntry remoteEntry second := by
  rcases same.cases with ⟨rfl, rfl⟩ | ⟨one, two, rfl, rfl, sameLocal, sameRemote, -, sameStatus⟩
  · rfl
  · rcases one with ⟨localHash, remoteHash, _, _, _, _, status⟩
    subst sameLocal sameRemote sameStatus
    cases localEntry <;> cases remoteEntry <;> rfl

theorem unsettledSkip_congr (same : SameRecord first second) :
    unsettledSkip localEntry remoteEntry first = unsettledSkip localEntry remoteEntry second := by
  rcases same.cases with ⟨rfl, rfl⟩ | ⟨one, two, rfl, rfl, sameLocal, sameRemote, -, -⟩
  · rfl
  · rcases one with ⟨localHash, remoteHash, _, _, _, _, status⟩
    subst sameLocal sameRemote
    cases localEntry <;> cases remoteEntry <;> rfl

theorem refreshed_record (entry : TreeEntry) (row : SyncedEntry) :
    (StateWrite.refreshed entry row).record = row.record := by
  unfold StateWrite.refreshed
  split <;> rfl

/-! ## A settled path -/

/-- A path at which a cycle has nothing to record, to transfer or to delete. -/
structure SettledAt (pair : SyncPair) (path : String) (localEntry remoteEntry : Option TreeEntry)
    (previous : Option SyncedEntry) : Prop where
  present : previous = none ∨ localEntry.isSome ∨ remoteEntry.isSome
  resumes : previous.bind (resumedEntry localEntry remoteEntry) = none
  adopts : adoptedEntry localEntry remoteEntry previous = none
  skips : forall operation,
    operationAt pair.syncDirection pair.preferences.propagateDeletions path localEntry remoteEntry
      previous = some operation ->
    operation.isSkip = true ∧ unsettledSkip localEntry remoteEntry previous = false

variable {pair : SyncPair}

theorem SettledAt.congr (same : SameRecord first second)
    (settled : SettledAt pair path localEntry remoteEntry first) :
    SettledAt pair path localEntry remoteEntry second := by
  refine ⟨?_, ?_, ?_, ?_⟩
  · have present := settled.present
    rcases same.cases with ⟨rfl, rfl⟩ | ⟨one, two, rfl, rfl, -⟩
    · exact .inl rfl
    · simpa using present
  · have resumes := settled.resumes
    rcases same.cases with ⟨rfl, rfl⟩ | ⟨one, two, rfl, rfl, sameLocal, -, sameId, sameStatus⟩
    · exact resumes
    · rw [Option.bind_some] at resumes ⊢
      unfold resumedEntry at resumes ⊢
      rcases localEntry with _ | localEntry <;> rcases remoteEntry with _ | remoteEntry <;>
        simp_all
  · have adopts := settled.adopts
    rcases same.cases with ⟨rfl, rfl⟩ | ⟨one, two, rfl, rfl, sameLocal, sameRemote, -, sameStatus⟩
    · exact adopts
    · unfold adoptedEntry at adopts ⊢
      rcases localEntry with _ | localEntry <;> rcases remoteEntry with _ | remoteEntry <;>
        simp_all
  · intro operation planned
    rw [← unsettledSkip_congr same]
    exact settled.skips operation ((operationAt_congr same).trans planned)

theorem settledAt_absent (pair : SyncPair) (path : String) : SettledAt pair path none none none where
  present := .inl rfl
  resumes := rfl
  adopts := rfl
  skips operation planned := by simp at planned

theorem settledAt_recorded (pair : SyncPair) (path : String) {localEntry remoteEntry : TreeEntry}
    {row : SyncedEntry} (localHash : row.localHash = some localEntry.hash)
    (remoteHash : row.remoteHash = some remoteEntry.hash) (status : row.syncStatus = .synced) :
    SettledAt pair path (some localEntry) (some remoteEntry) (some row) where
  present := .inr (.inl rfl)
  resumes := by simp [resumedEntry, status]
  adopts := by simp [adoptedEntry, status]
  skips operation planned := by
    have skip : operation = .skip path := by
      cases direction : pair.syncDirection <;>
        simp_all [operationAt, planPath, resolution, comparePath, directed, redirect, withhold,
          SyncStatus.isResolution, SyncOperation.isDelete]
    simp [skip, SyncOperation.isSkip, unsettledSkip, localHash, remoteHash]

/-- A file that only the local side has, in a mapping that never uploads. -/
theorem settledAt_localOnly (path : String) {localEntry : TreeEntry}
    {row : SyncedEntry} (direction : pair.syncDirection = .downloadOnly)
    (remoteHash : row.remoteHash = none) (status : row.syncStatus = .synced) :
    SettledAt pair path (some localEntry) none (some row) where
  present := .inr (.inl rfl)
  resumes := rfl
  adopts := rfl
  skips operation planned := by
    have skip : operation = .skip path := by
      simp_all [operationAt, planPath, resolution, comparePath, directed, redirect, withhold,
        SyncStatus.isResolution, SyncOperation.isDelete]
    simp [skip, SyncOperation.isSkip, unsettledSkip]

theorem settledAt_remoteOnly (path : String) {remoteEntry : TreeEntry}
    {row : SyncedEntry} (direction : pair.syncDirection = .uploadOnly)
    (localHash : row.localHash = none) (status : row.syncStatus = .synced) :
    SettledAt pair path none (some remoteEntry) (some row) where
  present := .inr (.inr rfl)
  resumes := rfl
  adopts := rfl
  skips operation planned := by
    have skip : operation = .skip path := by
      simp_all [operationAt, planPath, resolution, comparePath, directed, redirect, withhold,
        SyncStatus.isResolution, SyncOperation.isDelete]
    simp [skip, SyncOperation.isSkip, unsettledSkip]

theorem baselineRow_resumed (preferences : SyncPreferences) (localEntry remoteEntry : Option TreeEntry)
    (previous : Option SyncedEntry) :
    (baselineRow preferences localEntry remoteEntry previous).bind
      (resumedEntry localEntry remoteEntry) = none := by
  by_cases baselined : isBaselined preferences localEntry remoteEntry previous
  · rcases baselineRow_of_baselined baselined with ⟨one, two, row, rfl, rfl, same, -, -, -, status⟩
    simp [same, resumedEntry, status]
  · rw [baselineRow_of_not_baselined baselined]
    rw [isBaselined, not_or, Option.not_isSome_iff_eq_none] at baselined
    exact baselined.1

theorem settledAt_of_skip {previous : Option SyncedEntry} {operation : SyncOperation}
    (planned : operationAt pair.syncDirection pair.preferences.propagateDeletions path localEntry
      remoteEntry (baselineRow pair.preferences localEntry remoteEntry previous) = some operation)
    (skip : operation.isSkip = true)
    (settled : unsettledSkip localEntry remoteEntry
      (baselineRow pair.preferences localEntry remoteEntry previous) = false) :
    SettledAt pair path localEntry remoteEntry
      (baselineRow pair.preferences localEntry remoteEntry previous) := by
  generalize recorded : baselineRow pair.preferences localEntry remoteEntry previous = row at *
  refine ⟨?_, ?_, ?_, ?_⟩
  · right
    by_contra absent
    rw [not_or, Option.not_isSome_iff_eq_none, Option.not_isSome_iff_eq_none] at absent
    rw [absent.1, absent.2, operationAt_absent] at planned
    cases planned
  · rw [← recorded]
    exact baselineRow_resumed pair.preferences localEntry remoteEntry previous
  · rcases row with _ | row
    · simp [unsettledSkip] at settled
    · rcases localEntry with _ | localEntry <;> rcases remoteEntry with _ | remoteEntry <;> try rfl
      have ordinary : row.syncStatus ≠ .conflict := by
        intro status
        simp [operationAt, planPath, resolution, directed, status, SyncStatus.isResolution] at planned
        cases direction : pair.syncDirection <;>
          simp [direction, redirect, withhold, SyncOperation.isDelete] at planned <;>
          simp [← planned, SyncOperation.isSkip] at skip
      simp [adoptedEntry, ordinary]
  · intro other also
    rw [planned] at also
    cases also
    exact ⟨skip, settled⟩

/-! ## Preparing a settled mapping -/

theorem SettledAt.not_baselined {previous : Option SyncedEntry}
    (settled : SettledAt pair path localEntry remoteEntry previous) :
    ¬isBaselined pair.preferences localEntry remoteEntry previous := by
  have resumed : resumedRow localEntry remoteEntry previous = previous := by
    have resumes := settled.resumes
    rcases previous with _ | previous
    · rfl
    · rw [Option.bind_some] at resumes
      rw [resumedRow, Option.map_some, resumes, Option.getD_none]
  rw [isBaselined, resumed, settled.adopts, settled.resumes]
  simp

/-- Over a settled mapping a preparation refreshes metadata at most, plans
skips only, and none of them is retained. -/
theorem prepareReconciliation_settled (clock : String -> Int) {scan : LocalScan}
    {rows : SyncedTree} {remote : FileTree}
    (settled : forall path, SettledAt pair path
      (retainTreePaths pair.preferences (scan.tree, remote, rows)).1[path]?
      (retainTreePaths pair.preferences (scan.tree, remote, rows)).2.1[path]?
      (retainTreePaths pair.preferences (scan.tree, remote, rows)).2.2[path]?) :
    Exists fun writes => Exists fun prepared =>
      prepareReconciliation pair clock scan rows remote = (writes, .ok prepared) ∧
        (forall operation, operation ∈ prepared.operations -> operation.isSkip = true) ∧
        (dropSettledSkips prepared).operations = [] ∧
        (forall write, write ∈ writes -> Exists fun path => Exists fun entry =>
          write = .refreshMetadata path entry) := by
  generalize retained : retainTreePaths pair.preferences (scan.tree, remote, rows) = trees at settled
  rcases trees with ⟨localTree, remoteTree, synced⟩
  have vanished : vanishedWrites localTree remoteTree synced = [] := by
    rw [vanishedWrites, List.map_eq_nil_iff, List.filter_eq_nil_iff]
    intro path member
    rcases (settled path).present with absent | present
    · have recorded := Std.TreeMap.mem_iff_isSome_getElem?.mp (Std.TreeMap.mem_keys.mp member)
      rw [absent] at recorded
      cases recorded
    · rw [Std.TreeMap.contains_eq_isSome_getElem?, Std.TreeMap.contains_eq_isSome_getElem?]
      rcases present with here | there
      · rw [here]
        simp
      · rw [there]
        simp
  have unchanged : forall path : String,
      (baseline pair.preferences localTree remoteTree synced).1[path]? = synced[path]? := by
    intro path
    rw [baseline_row, baselineRow_of_not_baselined (settled path).not_baselined]
  have none : (baseline pair.preferences localTree remoteTree synced).2 = [] := by
    rw [List.eq_nil_iff_forall_not_mem]
    intro path member
    exact (settled path).not_baselined ((mem_baseline_paths _ _ _ _ _).mp member)
  have skips : forall operation, operation ∈ operationsForPolicy localTree remoteTree
      (baseline pair.preferences localTree remoteTree synced).1 pair.syncDirection
      pair.preferences.propagateDeletions -> operation.isSkip = true ∧
        unsettledSkip localTree[operation.path]? remoteTree[operation.path]?
          (baseline pair.preferences localTree remoteTree synced).1[operation.path]? = false := by
    intro operation member
    rw [mem_operationsForPolicy, unchanged] at member
    rw [unchanged]
    exact (settled operation.path).skips operation member
  generalize planned : operationsForPolicy localTree remoteTree
    (baseline pair.preferences localTree remoteTree synced).1 pair.syncDirection
    pair.preferences.propagateDeletions = operations at skips
  have noDeletes : operations.countP SyncOperation.isDelete = 0 := by
    rw [List.countP_eq_zero]
    intro operation member
    have skip := (skips operation member).1
    cases operation <;> simp_all [SyncOperation.isSkip, SyncOperation.isDelete]
  have accepted : planForPolicy localTree remoteTree
      (baseline pair.preferences localTree remoteTree synced).1 pair.syncDirection
      pair.preferences.propagateDeletions = .ok operations := by
    rw [planForPolicy, planned, enforceMassDeletion, noDeletes]
    simp
  have noConflicts : operations.filter SyncOperation.isConflict = [] := by
    rw [List.filter_eq_nil_iff]
    intro operation member
    have skip := (skips operation member).1
    cases operation <;> simp_all [SyncOperation.isSkip, SyncOperation.isConflict]
  unfold prepareReconciliation
  simp only [retained, accepted]
  refine ⟨_, _, rfl, fun operation member => (skips operation member).1, ?_, ?_⟩
  · rw [dropSettledSkips, List.filter_eq_nil_iff]
    intro operation member
    rw [unsettled, (skips operation member).1, (skips operation member).2]
    simp
  · intro write member
    simp only [bookkeepingWrites, vanished, none, baselineWrites, conflictWrites, noConflicts,
      List.map_nil, List.nil_append, List.append_nil, refreshWrites, List.mem_map] at member
    rcases member with ⟨entry, -, rfl⟩
    exact ⟨entry.1, entry.2, rfl⟩


/-! ## The rows a completed cycle leaves -/

/-- The bookkeeping of a preparation leaves at a present path the row the plan
is made from, up to sizes and times. -/
theorem bookkeepingWrites_record (preferences : SyncPreferences) (clock : String -> Int)
    (scan : LocalScan) (rows : SyncedTree) (trees : FileTree × FileTree × SyncedTree)
    (kept : trees.2.2[path]? = rows[path]?) (present : path ∈ trees.1 ∨ path ∈ trees.2.1) :
    SameRecord (applyWrites rows (bookkeepingWrites preferences clock scan trees))[path]?
      (baselineRow preferences trees.1[path]? trees.2.1[path]? rows[path]?) := by
  rw [bookkeepingWrites, applyWrites_append, applyWrites_append]
  apply stateWrites.look_applyAll_invariant
    (fun row => SameRecord row (baselineRow preferences trees.1[path]? trees.2.1[path]? rows[path]?))
  · intro write member _ row same
    rcases List.mem_map.mp member with ⟨entry, -, rfl⟩
    rw [SameRecord] at same ⊢
    rw [← same]
    cases row with
    | none => rfl
    | some row => exact congrArg some (refreshed_record entry.2 row)
  · have vanished : (applyWrites rows (vanishedWrites trees.1 trees.2.1 trees.2.2))[path]? =
        rows[path]? := by
      refine applyWrites_of_absent rows fun write member same => ?_
      rcases List.mem_map.mp member with ⟨gone, filtered, rfl⟩
      have both := (List.mem_filter.mp filtered).2
      rw [StateWrite.path] at same
      subst same
      rw [Bool.and_eq_true, Bool.not_eq_true', Bool.not_eq_true'] at both
      rcases present with here | there
      · exact absurd (Std.TreeMap.mem_iff_contains.mp here) (by rw [both.1]; decide)
      · exact absurd (Std.TreeMap.mem_iff_contains.mp there) (by rw [both.2]; decide)
    by_cases baselined : isBaselined preferences trees.1[path]? trees.2.1[path]? rows[path]?
    · rcases baselineRow_of_baselined baselined with
        ⟨one, two, row, here, there, same, localHash, remoteHash, messageId, status⟩
      have written := stateWrites.look_applyAll_of_agree
        (baselineWrites clock trees.1 trees.2.1 (baseline preferences trees.1 trees.2.1 trees.2.2).2)
        path ((upsertState path trees.1[path]? trees.2.1[path]? .synced (clock path)).effect none)
        (applyWrites rows (vanishedWrites trees.1 trees.2.1 trees.2.2))
        (by
          intro write member atPath before
          rcases List.mem_map.mp member with ⟨other, -, rfl⟩
          change other = path at atPath
          subst atPath
          rfl)
        ⟨upsertState path trees.1[path]? trees.2.1[path]? .synced (clock path),
          List.mem_map.mpr ⟨path, (mem_baseline_paths _ _ _ _ _).mpr (kept ▸ baselined), rfl⟩, rfl⟩
      change (applyWrites _ _)[path]? = _ at written
      change SameRecord (applyWrites _ _)[path]? _
      rw [written, same, here, there]
      simp [SameRecord, SyncedEntry.record, upsertState, StateWrite.effect, localHash, remoteHash,
        messageId, status]
    · rw [baselineRow_of_not_baselined baselined]
      change SameRecord (applyWrites _ _)[path]? _
      rw [applyWrites_of_absent, vanished]
      · exact SameRecord.refl _
      · intro write member same
        rcases List.mem_map.mp member with ⟨other, listed, rfl⟩
        rw [upsertState_path] at same
        subst same
        exact baselined (kept ▸ (mem_baseline_paths _ _ _ _ _).mp listed)

/-- The row of a path that exists on neither side is gone after a preparation. -/
theorem bookkeepingWrites_vanished (preferences : SyncPreferences) (clock : String -> Int)
    (scan : LocalScan) (rows : SyncedTree) (trees : FileTree × FileTree × SyncedTree)
    (kept : trees.2.2[path]? = rows[path]?) (here : path ∉ trees.1) (there : path ∉ trees.2.1) :
    (applyWrites rows (bookkeepingWrites preferences clock scan trees))[path]? = none := by
  rw [bookkeepingWrites, applyWrites_append, applyWrites_append, applyWrites_of_absent,
    applyWrites_of_absent]
  · by_cases recorded : path ∈ trees.2.2
    · refine stateWrites.look_applyAll_of_agree _ _ _ rows ?_ ⟨.delete path, ?_, rfl⟩
      · intro write member _ before
        rcases List.mem_map.mp member with ⟨gone, -, rfl⟩
        rfl
      · refine List.mem_map.mpr ⟨path, List.mem_filter.mpr ⟨Std.TreeMap.mem_keys.mpr recorded, ?_⟩, rfl⟩
        rw [Std.TreeMap.mem_iff_contains, Bool.not_eq_true] at here there
        rw [here, there]
        rfl
    · rw [applyWrites_of_absent, ← kept, Std.TreeMap.getElem?_eq_none recorded]
      intro write member same
      rcases List.mem_map.mp member with ⟨gone, filtered, rfl⟩
      rw [StateWrite.path] at same
      subst same
      exact recorded (Std.TreeMap.mem_keys.mp (List.mem_filter.mp filtered).1)
  · intro write member same
    rcases List.mem_map.mp member with ⟨other, listed, rfl⟩
    rw [upsertState_path] at same
    subst same
    rcases baselineRow_of_baselined ((mem_baseline_paths _ _ _ _ _).mp listed) with ⟨one, _, _, entry, -⟩
    rw [Std.TreeMap.getElem?_eq_none here] at entry
    cases entry
  · intro write member same
    rcases List.mem_map.mp member with ⟨entry, filtered, rfl⟩
    rw [StateWrite.path] at same
    subst same
    exact here (by simpa using (List.mem_filter.mp filtered).2)


section Completed

variable (outcomes : Outcomes) (clock : String -> Int) (executed : PreparedReconciliation)

theorem completedWrites_path {write : StateWrite}
    (member : write ∈ completedWrites outcomes clock executed) :
    Exists fun operation => operation ∈ executed.operations ∧ write.path = operation.path := by
  unfold completedWrites at member
  rw [List.mem_append, List.mem_append] at member
  rcases member with (journaled | journaled) | recorded
  · rcases List.mem_filterMap.mp journaled with ⟨operation, inside, entry⟩
    refine ⟨operation, inside, ?_⟩
    cases operation <;> simp [executionJournal] at entry
    rcases entry with ⟨messageId, -, rfl⟩
    rfl
  · rcases List.mem_filterMap.mp journaled with ⟨result, listed, entry⟩
    rcases List.mem_map.mp (List.mem_filter.mp listed).1 with ⟨operation, inside, rfl⟩
    refine ⟨operation, inside, ?_⟩
    split at entry
    · cases entry
      rfl
    · cases entry
  · rcases List.mem_filterMap.mp recorded with ⟨result, listed, entry⟩
    rcases List.mem_map.mp listed with ⟨operation, inside, rfl⟩
    exact ⟨operation, inside, recordResult_path entry⟩

theorem recordResult_success {operation : SyncOperation} (member : operation ∈ executed.operations) :
    Exists fun write =>
      recordResult clock executed (uploadedTree outcomes executed.operations)
        (successResult outcomes operation) = some write ∧
      forall before, write.effect before = write.effect none := by
  rcases operation with ⟨path, entry⟩ | ⟨path, entry, _ | _, expected⟩ | _ | _ | path | path
  · have uploaded := uploadedTree_of_mem outcomes member
    refine ⟨upsertState path executed.localTree[path]? (some (outcomes.published path)) .synced
      (clock path), ?_, fun _ => rfl⟩
    simp [recordResult, successResult, SyncOperation.action, SyncOperation.path, uploaded]
  · exact ⟨_, rfl, fun _ => rfl⟩
  all_goals
    first
    | exact ⟨_, rfl, fun _ => rfl⟩
    | simp only [recordResult, successResult, SyncOperation.action, Bool.not_true, Bool.false_eq_true,
        if_false]
      split
      · exact ⟨_, rfl, fun _ => rfl⟩
      · exact ⟨_, rfl, fun _ => rfl⟩

theorem completedWrites_row_of_absent (rows : SyncedTree) {path : String}
    (absent : forall operation, operation ∈ executed.operations -> operation.path ≠ path) :
    (applyWrites rows (completedWrites outcomes clock executed))[path]? = rows[path]? := by
  refine applyWrites_of_absent rows fun write member same => ?_
  rcases completedWrites_path outcomes clock executed member with ⟨operation, inside, atPath⟩
  exact absent operation inside (atPath.symm.trans same)

theorem completedWrites_row (rows : SyncedTree)
    (distinct : forall one two, one ∈ executed.operations -> two ∈ executed.operations ->
      one.path = two.path -> one = two)
    {operation : SyncOperation} (member : operation ∈ executed.operations) {write : StateWrite}
    (recorded : recordResult clock executed (uploadedTree outcomes executed.operations)
      (successResult outcomes operation) = some write) :
    (applyWrites rows (completedWrites outcomes clock executed))[operation.path]? =
      write.effect none := by
  rw [completedWrites, applyWrites_append]
  refine stateWrites.look_applyAll_of_agree _ _ _ _ ?_
    ⟨write, List.mem_filterMap.mpr ⟨_, List.mem_map_of_mem member, recorded⟩, recordResult_path recorded⟩
  intro other listed same before
  rcases List.mem_filterMap.mp listed with ⟨result, mapped, entry⟩
  rcases List.mem_map.mp mapped with ⟨another, inside, rfl⟩
  have samePath : another.path = operation.path := (recordResult_path entry).symm.trans same
  rcases distinct another operation inside member samePath
  rcases recordResult_success outcomes clock executed member with ⟨constant, listedToo, fixed⟩
  rw [recorded, Option.some.injEq] at listedToo entry
  rw [← entry, listedToo]
  exact fixed before

end Completed


theorem skip_without_row {direction : Direction} {propagateDeletions : Bool} {entry : TreeEntry} :
    (operationAt direction propagateDeletions path (some entry) none none = some (.skip path) ->
      direction = .downloadOnly) ∧
    (operationAt direction propagateDeletions path none (some entry) none = some (.skip path) ->
      direction = .uploadOnly) := by
  cases direction <;>
    simp [operationAt, planPath, comparePath, directed, redirect, withhold, SyncOperation.isDelete]

theorem settledAt_executed {outcomes : Outcomes} {clock : String -> Int}
    (executed : PreparedReconciliation) {operation : SyncOperation} {write : StateWrite}
    (member : operation ∈ executed.operations)
    (planned : operationAt pair.syncDirection pair.preferences.propagateDeletions operation.path
      executed.localTree[operation.path]? executed.remoteTree[operation.path]?
      executed.synced[operation.path]? = some operation)
    (retained : unsettled executed operation = true) (noConflict : operation.isConflict = false)
    (noCopy : operation.action ≠ .keepBoth)
    (recorded : recordResult clock executed (uploadedTree outcomes executed.operations)
      (successResult outcomes operation) = some write) :
    SettledAt pair operation.path
      (transferred outcomes operation
        (executed.localTree[operation.path]?, executed.remoteTree[operation.path]?)).1
      (transferred outcomes operation
        (executed.localTree[operation.path]?, executed.remoteTree[operation.path]?)).2
      (write.effect none) := by
  have warranted := operationAt_warranted planned
  rcases operation with ⟨path, entry⟩ | ⟨path, entry, _ | _, expected⟩ | ⟨path, hash⟩ |
    ⟨path, messageId, hash⟩ | path | path
  · have uploaded := uploadedTree_of_mem outcomes member
    simp only [SyncOperation.path] at planned warranted ⊢
    simp [recordResult, successResult, SyncOperation.action, SyncOperation.path, uploaded,
      warranted.1] at recorded
    rw [← recorded, warranted.1]
    exact settledAt_recorded pair path rfl rfl rfl
  · simp only [SyncOperation.path] at planned warranted ⊢
    simp [recordResult, successResult, SyncOperation.action, SyncOperation.path, warranted.1,
      verifiedDownload] at recorded
    rw [← recorded, warranted.1]
    exact settledAt_recorded pair path rfl rfl rfl
  · exact absurd rfl noCopy
  · cases recorded
    rw [transferred, warranted.2.1]
    exact settledAt_absent pair path
  · cases recorded
    rw [transferred, warranted.1]
    exact settledAt_absent pair path
  · cases noConflict
  · simp only [SyncOperation.path] at planned warranted ⊢
    rw [transferred]
    simp only [recordResult, successResult, SyncOperation.action, SyncOperation.path, Bool.not_true,
      Bool.false_eq_true, if_false] at recorded
    simp only [unsettled, SyncOperation.isSkip, SyncOperation.path, Bool.not_true,
      Bool.false_or] at retained
    generalize executed.localTree[path]? = localEntry at *
    generalize executed.remoteTree[path]? = remoteEntry at *
    generalize executed.synced[path]? = previous at *
    rcases localEntry with _ | localEntry <;> rcases remoteEntry with _ | remoteEntry
    · exact absurd warranted (by simp [Warranted])
    · cases recorded
      cases previous with
      | some row => cases retained
      | none => exact settledAt_remoteOnly path (skip_without_row.2 planned) rfl rfl
    · cases recorded
      cases previous with
      | some row => cases retained
      | none => exact settledAt_localOnly path (skip_without_row.1 planned) rfl rfl
    · cases recorded
      exact settledAt_recorded pair path rfl rfl rfl


/-! ## Convergence -/

/-- The trees after every retained operation of a preparation was carried out. -/
def completedTrees (outcomes : Outcomes) (executed : PreparedReconciliation)
    (trees : FileTree × FileTree) : FileTree × FileTree :=
  executed.operations.foldl (performOperation outcomes) trees

section Completion

variable {pair : SyncPair} {clock : String -> Int} {scan : LocalScan} {rows : SyncedTree}
  {remote : FileTree} {writes : List StateWrite} {prepared : PreparedReconciliation}

private theorem mem_dropSettledSkips {operation : SyncOperation} :
    operation ∈ (dropSettledSkips prepared).operations ↔
      operation ∈ prepared.operations ∧ unsettled prepared operation = true :=
  List.mem_filter

private theorem no_kept_copies
    (from_ : PreparedFrom pair clock scan
      (retainTreePaths pair.preferences (scan.tree, remote, rows)) writes prepared)
    (noKeepBoth : forall (path : String) row, rows[path]? = some row -> row.syncStatus ≠ .keepBoth)
    {operation : SyncOperation} (member : operation ∈ prepared.operations) :
    operation.action ≠ .keepBoth := by
  rcases from_.planned member with ⟨kept, planned⟩
  have warranted := operationAt_warranted planned
  rcases operation with _ | ⟨path, entry, _ | _, expected⟩ | _ | _ | _ | _ <;> intro copies <;>
    try cases copies
  rcases warranted with ⟨-, -, -, row, recorded, status⟩
  have before := recorded.symm.trans (from_.entries kept).2.2
  rw [SyncOperation.path] at before
  by_cases baselined : isBaselined pair.preferences scan.tree[path]? remote[path]? rows[path]?
  · rcases baselineRow_of_baselined baselined with ⟨_, _, other, -, -, same, -, -, -, synced⟩
    rw [same] at before
    cases before
    rw [synced] at status
    cases status
  · rw [baselineRow_of_not_baselined baselined] at before
    exact noKeepBoth path row before.symm status

/-- The entries of every path after the retained operations were carried out. -/
private theorem completedTrees_entries
    (from_ : PreparedFrom pair clock scan
      (retainTreePaths pair.preferences (scan.tree, remote, rows)) writes prepared)
    (noKeepBoth : forall (path : String) row, rows[path]? = some row -> row.syncStatus ≠ .keepBoth)
    (outcomes : Outcomes) (path : String) :
    let trees := completedTrees outcomes (dropSettledSkips prepared) (scan.tree, remote)
    (forall operation, operation ∈ (dropSettledSkips prepared).operations -> operation.path = path ->
      trees.1[path]? = (transferred outcomes operation (scan.tree[path]?, remote[path]?)).1 ∧
        trees.2[path]? = (transferred outcomes operation (scan.tree[path]?, remote[path]?)).2) ∧
    ((forall operation, operation ∈ (dropSettledSkips prepared).operations ->
        operation.path ≠ path) ->
      trees.1[path]? = scan.tree[path]? ∧ trees.2[path]? = remote[path]?) := by
  have whole : completedTrees outcomes (dropSettledSkips prepared) (scan.tree, remote) =
      (transfers outcomes).applyAll (scan.tree, remote) (dropSettledSkips prepared).operations := by
    refine foldl_performOperation outcomes (fun path entry expected member => ?_) _
    exact no_kept_copies from_ noKeepBoth (mem_dropSettledSkips.mp member).1 rfl
  have distinct : ((dropSettledSkips prepared).operations.map (transfers outcomes).key).Nodup := by
    refine List.Nodup.sublist (List.filter_sublist.map _) ?_
    rw [from_.operations]
    exact operationsForPolicy_paths_nodup _ _ _ _ _
  rw [whole]
  constructor
  · rintro operation member rfl
    exact Prod.ext_iff.mp
      ((transfers outcomes).look_applyAll_of_mem (scan.tree, remote) distinct member)
  · intro absent
    exact Prod.ext_iff.mp
      ((transfers outcomes).look_applyAll_of_absent (scan.tree, remote) absent)

private theorem settledAt_untouched
    (from_ : PreparedFrom pair clock scan
      (retainTreePaths pair.preferences (scan.tree, remote, rows)) writes prepared)
    (noConflict : forall operation, operation ∈ prepared.operations -> operation.isConflict = false)
    {path : String} (kept : pair.preferences.ignores path = false)
    (untouched : forall operation, operation ∈ (dropSettledSkips prepared).operations ->
      operation.path ≠ path) :
    SettledAt pair path scan.tree[path]? remote[path]? (applyWrites rows writes)[path]? := by
  have noConflicts : prepared.operations.filter SyncOperation.isConflict = [] := by
    rw [List.filter_eq_nil_iff]
    intro operation member
    rw [noConflict operation member]
    exact Bool.false_ne_true
  have rowKept : (retainTreePaths pair.preferences (scan.tree, remote, rows)).2.2[path]? =
      rows[path]? := by
    rw [retainTreePaths_synced, kept, if_neg Bool.false_ne_true]
  have here : (retainTreePaths pair.preferences (scan.tree, remote, rows)).1[path]? =
      scan.tree[path]? := from_.localTree ▸ (from_.entries kept).1
  have there : (retainTreePaths pair.preferences (scan.tree, remote, rows)).2.1[path]? =
      remote[path]? := from_.remoteTree ▸ (from_.entries kept).2.1
  rw [from_.written, conflictWrites, noConflicts, List.map_nil, List.append_nil]
  by_cases present : scan.tree[path]?.isSome ∨ remote[path]?.isSome
  · have same := bookkeepingWrites_record pair.preferences clock scan rows _ rowKept (by
      rw [Std.TreeMap.mem_iff_isSome_getElem?, Std.TreeMap.mem_iff_isSome_getElem?, here, there]
      exact present)
    rw [here, there] at same
    refine SettledAt.congr same.symm ?_
    rcases operationAt_isSome pair.syncDirection pair.preferences.propagateDeletions path
      (baselineRow pair.preferences scan.tree[path]? remote[path]? rows[path]?) present with
      ⟨operation, planned⟩
    have atPath := operationAt_path planned
    subst atPath
    have member : operation ∈ prepared.operations := by
      rw [from_.operations, mem_operationsForPolicy, (from_.entries kept).1, (from_.entries kept).2.1,
        (from_.entries kept).2.2]
      exact planned
    have settled : unsettled prepared operation = false := by
      rw [Bool.eq_false_iff]
      exact fun retained => untouched operation (mem_dropSettledSkips.mpr ⟨member, retained⟩) rfl
    rw [unsettled, Bool.or_eq_false_iff, (from_.entries kept).1, (from_.entries kept).2.1,
      (from_.entries kept).2.2] at settled
    exact settledAt_of_skip planned (by simpa using settled.1) settled.2
  · rw [not_or, Option.not_isSome_iff_eq_none, Option.not_isSome_iff_eq_none] at present
    rw [present.1, present.2, bookkeepingWrites_vanished pair.preferences clock scan rows _ rowKept]
    · exact settledAt_absent pair path
    · rw [Std.TreeMap.mem_iff_isSome_getElem?, here, present.1]
      exact Bool.false_ne_true
    · rw [Std.TreeMap.mem_iff_isSome_getElem?, there, present.2]
      exact Bool.false_ne_true

end Completion

/-- After a completed cycle without conflicts and kept copies, a further cycle
over the same files is accepted, plans skips only, executes none of them, and
writes nothing but refreshed sizes and modification times. -/
theorem completed_cycle_converges {pair : SyncPair} {clock : String -> Int} {scan : LocalScan}
    {rows : SyncedTree} {remote : FileTree} {writes : List StateWrite}
    {prepared : PreparedReconciliation}
    (accepted : prepareReconciliation pair clock scan rows remote = (writes, .ok prepared))
    (noConflict : forall operation, operation ∈ prepared.operations -> operation.isConflict = false)
    (noKeepBoth : forall (path : String) row, rows[path]? = some row -> row.syncStatus ≠ .keepBoth)
    (outcomes : Outcomes) (finishing later : String -> Int) {rescan : LocalScan} {reread : FileTree}
    (localStands : forall path : String, rescan.tree[path]? =
      (completedTrees outcomes (dropSettledSkips prepared) (scan.tree, remote)).1[path]?)
    (remoteStands : forall path : String, reread[path]? =
      (completedTrees outcomes (dropSettledSkips prepared) (scan.tree, remote)).2[path]?) :
    Exists fun laterWrites => Exists fun laterPrepared =>
      prepareReconciliation pair later rescan
          (applyWrites rows (writes ++
            completedWrites outcomes finishing (dropSettledSkips prepared))) reread =
        (laterWrites, .ok laterPrepared) ∧
      (forall operation, operation ∈ laterPrepared.operations -> operation.isSkip = true) ∧
      (dropSettledSkips laterPrepared).operations = [] ∧
      (forall write, write ∈ laterWrites -> Exists fun path => Exists fun entry =>
        write = .refreshMetadata path entry) := by
  have from_ := prepareReconciliation_ok accepted
  apply prepareReconciliation_settled
  intro path
  rw [retainTreePaths_local, retainTreePaths_remote, retainTreePaths_synced, applyWrites_append]
  cases kept : pair.preferences.ignores path with
  | true => exact settledAt_absent pair path
  | false =>
    simp only [Bool.false_eq_true, if_false, localStands, remoteStands]
    have entries := completedTrees_entries from_ noKeepBoth outcomes path
    by_cases touched : Exists fun operation =>
        operation ∈ (dropSettledSkips prepared).operations ∧ operation.path = path
    · rcases touched with ⟨operation, member, rfl⟩
      rcases mem_dropSettledSkips.mp member with ⟨inside, retained⟩
      rcases recordResult_success outcomes finishing (dropSettledSkips prepared) member with
        ⟨write, recorded, -⟩
      have row := completedWrites_row outcomes finishing (dropSettledSkips prepared)
        (applyWrites rows writes)
        (fun one two first second => from_.distinct (mem_dropSettledSkips.mp first).1
          (mem_dropSettledSkips.mp second).1) member recorded
      have settled := settledAt_executed (dropSettledSkips prepared) member
        (from_.planned inside).2 retained (noConflict operation inside)
        (no_kept_copies from_ noKeepBoth inside) recorded
      have moved := entries.1 operation member rfl
      rw [moved.1, moved.2, row, ← (from_.entries kept).1, ← (from_.entries kept).2.1]
      exact settled
    · have untouched : forall operation, operation ∈ (dropSettledSkips prepared).operations ->
          operation.path ≠ path := fun operation member same => touched ⟨operation, member, same⟩
      have stays := entries.2 untouched
      rw [stays.1, stays.2, completedWrites_row_of_absent _ _ _ _ untouched]
      exact settledAt_untouched from_ noConflict kept untouched


/-! ## The cycle after a download -/

def reportEntry : TreeEntry :=
  { hash := "v2:1", fileSize := 5, modifiedAt := some 10, messageId := some 7 }

/-- Telegram holds one file and the local folder is empty. -/
def reportRemote : FileTree := (∅ : FileTree).insert "report" reportEntry

def reportPair : SyncPair := { syncDirection := .bidirectional, preferences := default }

/-- The download left the five bytes it fetched, written at second 21. -/
def reportOutcomes : Outcomes where
  published _ := reportEntry
  downloaded _ := { hash := "00", fileSize := 5, modifiedAt := some 21, messageId := none }
  copyPath path := path
  publishedId _ := by simp [reportEntry]

def reportFolder : Entries :=
  .more ⟨"report", true, by decide, by decide⟩
    (.file { metadata := .ok { fileSize := 5, modifiedAt := some 21 }, digest := .ok "00" }) .none

/-- The recorded state after that download. -/
def reportRows : SyncedTree :=
  match prepareReconciliation reportPair (fun _ => 20) default ∅ reportRemote with
  | (writes, .ok prepared) =>
    applyWrites ∅ (writes ++ completedWrites reportOutcomes (fun _ => 22) (dropSettledSkips prepared))
  | _ => ∅

/-- The scan of the next cycle, long after the download. -/
def reportRescan : LocalScan :=
  (scanLocal "/sync" reportPair.preferences .hashEveryFile (some reportRows) 1000 reportFolder).toOption.getD
    default

/-- The cycle after a completed download writes to the database: it fills in
the modification time of the downloaded file. -/
theorem cycle_after_download_writes :
    (prepareReconciliation reportPair (fun _ => 1000) reportRescan reportRows reportRemote).1 =
        [.refreshMetadata "report"
          { hash := "00", fileSize := 5, modifiedAt := some 21, messageId := none }] ∧
      reportRows["report"]?.map (·.localMtime) = some none ∧
      (applyWrites reportRows (prepareReconciliation reportPair (fun _ => 1000) reportRescan
        reportRows reportRemote).1)["report"]?.map (·.localMtime) = some (some 21) := by
  decide +kernel

/-- The completed download converges. -/
theorem completed_download_converges :
    Exists fun writes => Exists fun prepared =>
      prepareReconciliation reportPair (fun _ => 20) default ∅ reportRemote = (writes, .ok prepared) ∧
      prepared.operations = [.download "report" reportEntry false none] ∧
      let trees := completedTrees reportOutcomes (dropSettledSkips prepared) (∅, reportRemote)
      Exists fun laterWrites => Exists fun laterPrepared =>
        prepareReconciliation reportPair (fun _ => 1000) { (default : LocalScan) with tree := trees.1 }
            (applyWrites ∅ (writes ++
              completedWrites reportOutcomes (fun _ => 22) (dropSettledSkips prepared))) trees.2 =
          (laterWrites, .ok laterPrepared) ∧
        (forall operation, operation ∈ laterPrepared.operations -> operation.isSkip = true) ∧
        (dropSettledSkips laterPrepared).operations = [] ∧
        (forall write, write ∈ laterWrites -> Exists fun path => Exists fun entry =>
          write = .refreshMetadata path entry) := by
  have planned : Exists fun prepared => (prepareReconciliation reportPair (fun _ => 20) default ∅ reportRemote).2 =
      .ok prepared ∧ prepared.operations = [.download "report" reportEntry false none] := by
    decide +kernel
  rcases planned with ⟨prepared, accepted, operations⟩
  refine ⟨_, prepared, Prod.ext rfl accepted, operations, ?_⟩
  refine completed_cycle_converges (Prod.ext rfl accepted) ?_ ?_ reportOutcomes
    (fun _ => 22) (fun _ => 1000) (fun _ => rfl) (fun _ => rfl)
  · intro operation member
    rw [operations] at member
    rw [List.mem_singleton.mp member]
    rfl
  · intro path row absent
    simp at absent

end SyncEngine
end TelegramDrive
