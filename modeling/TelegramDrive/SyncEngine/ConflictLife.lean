import TelegramDrive.SyncEngine.Mapping

namespace TelegramDrive
namespace SyncEngine

/-!
# The life of a conflict

A conflict lives in the status of its row.  A resolution overwrites that status,
and so does the failure of an operation, after which the row looks like that of
any other file: whether the conflict is found again depends on the hashes the
row has by chance.  They are those of the last transfer, or, when the conflict
was the first thing recorded, those of the two copies in conflict.

`choiceKept` says when a failed attempt leaves a row from which the planner
comes back to the conflict, or to the operation that was chosen.  Under it a
conflict stands until it is carried out or one of its copies changes.
-/

/-! ## What the planner makes of a standing conflict -/

/-- The operation that the user chose, or the conflict itself. -/
def AwaitsChoice (path : String) (localEntry remoteEntry : TreeEntry) (chosen : Option SyncStatus)
    (operation : SyncOperation) : Prop :=
  operation = .conflict path ∨ Exists fun status => chosen = some status ∧
    resolution path (some localEntry) (some remoteEntry) status = some (some operation)

/-- With these hashes a row that is no longer marked still leads the planner to
the conflict or to the chosen operation. -/
def keepsChoice (direction : Direction) (localEntry remoteEntry : TreeEntry) (row : SyncedEntry) :
    SyncStatus -> Bool
  | .keepLocal =>
    decide (row.localHash ≠ some localEntry.hash) &&
      (decide (row.remoteHash ≠ some remoteEntry.hash) || decide (direction ≠ .downloadOnly))
  | .keepRemote =>
    decide (row.remoteHash ≠ some remoteEntry.hash) &&
      (decide (row.localHash ≠ some localEntry.hash) || decide (direction ≠ .uploadOnly))
  | .keepBoth =>
    decide (row.localHash ≠ some localEntry.hash) && decide (row.remoteHash ≠ some remoteEntry.hash)
  | _ => false

/-- The statuses that a failure other than that of a conflict leaves. -/
def SyncStatus.isFailure : SyncStatus -> Bool
  | error | skipped | pausedVault => true
  | _ => false

/-- The row of a standing conflict: marked, resolved, or failed with a kept choice. -/
def Standing (direction : Direction) (localEntry remoteEntry : TreeEntry) (chosen : Option SyncStatus)
    (row : SyncedEntry) : Prop :=
  row.syncStatus = .conflict ∨ Exists fun status => chosen = some status ∧
    status.isResolution = true ∧ (row.syncStatus = status ∨
      (row.syncStatus.isFailure = true ∧ keepsChoice direction localEntry remoteEntry row status = true))

/-- A standing row that is not adopted as it is, without a transfer. -/
structure StandingRow (pair : SyncPair) (localEntry remoteEntry : TreeEntry)
    (chosen : Option SyncStatus) (row : SyncedEntry) : Prop where
  standing : Standing pair.syncDirection localEntry remoteEntry chosen row
  unadopted : pair.preferences.adoptMatchingFiles = true ->
    localEntry.fileSize = remoteEntry.fileSize ->
    ¬(row.localHash = some localEntry.hash ∧ row.remoteHash = some remoteEntry.hash)

section Planner

variable {direction : Direction} {propagateDeletions : Bool} {path : String}
  {localEntry remoteEntry : TreeEntry} {row : SyncedEntry} {operation : SyncOperation}

theorem operationAt_marked (marked : row.syncStatus = .conflict) :
    operationAt direction propagateDeletions path (some localEntry) (some remoteEntry) (some row) =
      some (.conflict path) := by
  have compared : planPath path (some localEntry) (some remoteEntry) (some row) =
      some (.conflict path) := by
    simp [planPath, marked, resolution]
  rw [operationAt, compared, Option.map_some]
  cases direction <;> simp [directed, marked, SyncStatus.isResolution, redirect, withhold,
    SyncOperation.isDelete]

theorem operationAt_resolved (resolved : row.syncStatus.isResolution = true)
    (planned : operationAt direction propagateDeletions path (some localEntry) (some remoteEntry)
      (some row) = some operation) :
    resolution path (some localEntry) (some remoteEntry) row.syncStatus = some (some operation) := by
  rcases Option.map_eq_some_iff.mp planned with ⟨compared, selected, rfl⟩
  have kept : directed direction (some localEntry) (some remoteEntry) (some row) compared = compared :=
    if_pos resolved
  rw [kept]
  cases status : row.syncStatus <;> rw [status] at resolved <;> cases resolved <;>
    simp [planPath, status, resolution] at selected <;> subst selected <;>
    simp [resolution, withhold, SyncOperation.isDelete]

/-- A failed row that keeps the choice plans the conflict or the chosen operation. -/
theorem operationAt_failed {status : SyncStatus} (different : localEntry.hash ≠ remoteEntry.hash)
    (failed : row.syncStatus.isFailure = true)
    (kept : keepsChoice direction localEntry remoteEntry row status = true)
    (planned : operationAt direction propagateDeletions path (some localEntry) (some remoteEntry)
      (some row) = some operation) :
    operation = .conflict path ∨
      resolution path (some localEntry) (some remoteEntry) status = some (some operation) := by
  rcases Option.map_eq_some_iff.mp planned with ⟨compared, selected, rfl⟩
  have plain : directed direction (some localEntry) (some remoteEntry) (some row) compared =
      redirect direction (some localEntry) (some remoteEntry) compared := by
    refine if_neg ?_
    cases ordinary : row.syncStatus <;> rw [ordinary] at failed <;> cases failed <;>
      simp [ordinary, SyncStatus.isResolution]
  have ordinary : planPath path (some localEntry) (some remoteEntry) (some row) =
      comparePath path (some localEntry) (some remoteEntry) (some row) := by
    cases ordinary : row.syncStatus <;> rw [ordinary] at failed <;> cases failed <;>
      simp [planPath, ordinary, resolution]
  rw [plain]
  rw [ordinary, comparePath] at selected
  cases status <;> simp [keepsChoice] at kept <;> cases direction <;>
    grind [redirect, withhold, resolution, SyncOperation.isDelete]

theorem operationAt_standing {chosen : Option SyncStatus}
    (different : localEntry.hash ≠ remoteEntry.hash)
    (standing : Standing direction localEntry remoteEntry chosen row)
    (planned : operationAt direction propagateDeletions path (some localEntry) (some remoteEntry)
      (some row) = some operation) :
    AwaitsChoice path localEntry remoteEntry chosen operation := by
  rcases standing with marked | ⟨status, choice, isResolution, resolved | ⟨failed, kept⟩⟩
  · rw [operationAt_marked marked] at planned
    exact .inl (Option.some.inj planned).symm
  · refine .inr ⟨status, choice, ?_⟩
    rw [← resolved] at isResolution ⊢
    exact operationAt_resolved isResolution planned
  · rcases operationAt_failed different failed kept planned with conflict | carried
    · exact .inl conflict
    · exact .inr ⟨status, choice, carried⟩

end Planner

/-! ## The segment of a run -/

/-- The event removes or changes neither copy at the path. -/
def copiesKept (messageOf : String -> Option Int) (pair : SyncPair) (path : String)
    (mapping : Mapping) (event : MappingEvent) : Bool :=
  ((mappingMachine messageOf pair).step mapping event).all fun next =>
    decide (next.localTree[path]? = mapping.localTree[path]? ∧
      (next.messages.filter fun file => file.1 = path) =
        mapping.messages.filter fun file => file.1 = path)

/-- An operation of the path is only carried out without success. -/
def notCarriedOut (path : String) (mapping : Mapping) : MappingEvent -> Bool
  | .perform _ (.failed _) => true
  | .perform _ _ =>
    (mapping.cycle.bind (·.waiting.head?)).all fun operation => decide (operation.path ≠ path)
  | _ => true

/-- A failed attempt at the choice is recorded in a row that keeps the choice. -/
def choiceKept (pair : SyncPair) (path : String) (mapping : Mapping) : MappingEvent -> Bool
  | .finish _ _ _ =>
    mapping.cycle.all fun cycle => cycle.results.all fun result =>
      decide (result.relativePath ≠ path) || decide (result.action = .conflict) ||
        match mapping.history.chosen[path]?, cycle.prepared.localTree[path]?,
            cycle.prepared.remoteTree[path]?, mapping.rows[path]? with
        | some status, some localEntry, some remoteEntry, some row =>
          keepsChoice pair.syncDirection localEntry remoteEntry row status
        | _, _, _, _ => false
  | _ => true

/-! ## The invariant -/

/-- The cycle under way knows both copies, and has no success at the path. -/
structure CycleInConflict (pair : SyncPair) (path : String) (localEntry remoteEntry : TreeEntry)
    (mapping : Mapping) (cycle : Cycle) : Prop where
  localCopy : cycle.prepared.localTree[path]? = some localEntry
  remoteCopy : cycle.prepared.remoteTree[path]? = some remoteEntry
  unadopted : path ∉ cycle.prepared.synced -> pair.preferences.adoptMatchingFiles = true ->
    localEntry.fileSize ≠ remoteEntry.fileSize
  waiting : forall operation, operation ∈ cycle.waiting -> operation.path = path ->
    operation = .conflict path ∨ (path ∈ cycle.prepared.synced ∧
      AwaitsChoice path localEntry remoteEntry mapping.history.chosen[path]? operation)
  results : forall result, result ∈ cycle.results -> result.relativePath = path ->
    result.success = false ∧ (result.action = .conflict ∨ (path ∈ cycle.prepared.synced ∧
      Exists fun status => mapping.history.chosen[path]? = some status ∧ status.isResolution = true))

structure InConflict (pair : SyncPair) (path : String) (localEntry remoteEntry : TreeEntry)
    (mapping : Mapping) : Prop where
  different : localEntry.hash ≠ remoteEntry.hash
  walked : scanOmits pair.preferences path = false
  localCopy : mapping.localTree[path]? = some localEntry
  remoteCopy : (path, remoteEntry) ∈ mapping.messages
  only : forall entry, (path, entry) ∈ mapping.messages -> entry = remoteEntry
  row : Exists fun row => mapping.rows[path]? = some row ∧
    StandingRow pair localEntry remoteEntry mapping.history.chosen[path]? row
  cycle : forall cycle, mapping.cycle = some cycle ->
    CycleInConflict pair path localEntry remoteEntry mapping cycle

theorem ignores_of_scanOmits {preferences : SyncPreferences} {path : String}
    (walked : scanOmits preferences path = false) : preferences.ignores path = false := by
  rw [scanOmits, Bool.or_eq_false_iff] at walked
  exact walked.1

variable {messageOf : String -> Option Int} {pair : SyncPair} {path : String}
  {localEntry remoteEntry : TreeEntry}

variable {mapping next : Mapping}

theorem copiesKept_same {event : MappingEvent} (kept : copiesKept messageOf pair path mapping event = true)
    (moved : (mappingMachine messageOf pair).step mapping event = some next) :
    next.localTree[path]? = mapping.localTree[path]? ∧
      forall entry, (path, entry) ∈ next.messages ↔ (path, entry) ∈ mapping.messages := by
  rw [copiesKept, moved, Option.all_some, decide_eq_true_eq] at kept
  refine ⟨kept.1, fun entry => ?_⟩
  have same : (path, entry) ∈ (next.messages.filter fun file => file.1 = path) ↔
      (path, entry) ∈ mapping.messages.filter fun file => file.1 = path := by
    rw [kept.2]
  simpa using same

/-- What a step leaves of a conflict, from what it does to the row and the cycle. -/
theorem InConflict.step {event : MappingEvent}
    (conflict : InConflict pair path localEntry remoteEntry mapping)
    (kept : copiesKept messageOf pair path mapping event = true)
    (moved : (mappingMachine messageOf pair).step mapping event = some next)
    (row : Exists fun row => next.rows[path]? = some row ∧
      StandingRow pair localEntry remoteEntry next.history.chosen[path]? row)
    (cycle : forall cycle, next.cycle = some cycle ->
      CycleInConflict pair path localEntry remoteEntry next cycle) :
    InConflict pair path localEntry remoteEntry next := by
  rcases copiesKept_same kept moved with ⟨localSame, messagesSame⟩
  exact
    { different := conflict.different
      walked := conflict.walked
      localCopy := localSame.trans conflict.localCopy
      remoteCopy := (messagesSame _).mpr conflict.remoteCopy
      only := fun entry member => conflict.only entry ((messagesSame entry).mp member)
      row := row
      cycle := cycle }

theorem CycleInConflict.frame {cycle after : Cycle}
    (running : CycleInConflict pair path localEntry remoteEntry mapping cycle)
    (chosen : next.history.chosen = mapping.history.chosen)
    (prepared : after.prepared = cycle.prepared) (waiting : after.waiting = cycle.waiting)
    (results : after.results = cycle.results) :
    CycleInConflict pair path localEntry remoteEntry next after := by
  refine ⟨?_, ?_, ?_, ?_, ?_⟩
  · rw [prepared]
    exact running.localCopy
  · rw [prepared]
    exact running.remoteCopy
  · rw [prepared]
    exact running.unadopted
  · rw [waiting, prepared, chosen]
    exact running.waiting
  · rw [results, prepared, chosen]
    exact running.results

variable {row : SyncedEntry} {direction : Direction}

theorem keepsChoice_congr {other : SyncedEntry} {status : SyncStatus}
    (localHash : other.localHash = row.localHash) (remoteHash : other.remoteHash = row.remoteHash) :
    keepsChoice direction localEntry remoteEntry other status =
      keepsChoice direction localEntry remoteEntry row status := by
  unfold keepsChoice
  rw [localHash, remoteHash]

/-- A statement leaves the hashes of a row, and its status or marks it a conflict. -/
def LeavesOrMarks (write : StateWrite) (row : SyncedEntry) : Prop :=
  Exists fun after => write.effect (some row) = some after ∧ after.localHash = row.localHash ∧
    after.remoteHash = row.remoteHash ∧
    (after.syncStatus = row.syncStatus ∨ after.syncStatus = .conflict)

variable {chosen : Option SyncStatus}

theorem LeavesOrMarks.standing {write : StateWrite}
    (leaves : LeavesOrMarks write row) (stands : StandingRow pair localEntry remoteEntry chosen row) :
    Exists fun after => write.effect (some row) = some after ∧
      StandingRow pair localEntry remoteEntry chosen after := by
  rcases leaves with ⟨after, written, localHash, remoteHash, status⟩
  refine ⟨after, written, ?_, by rw [localHash, remoteHash]; exact stands.unadopted⟩
  rcases status with status | marked
  · rcases stands.standing with
      conflict | ⟨choice, isChosen, isResolution, resolved | ⟨failed, kept⟩⟩
    · exact .inl (status.trans conflict)
    · exact .inr ⟨choice, isChosen, isResolution, .inl (status.trans resolved)⟩
    · refine .inr ⟨choice, isChosen, isResolution, .inr ⟨status ▸ failed, ?_⟩⟩
      rw [keepsChoice_congr localHash remoteHash]
      exact kept
  · exact .inl marked

variable {writes : List StateWrite}

theorem standing_applyWrites {rows : SyncedTree}
    (each : forall write, write ∈ writes -> write.path = path -> forall row, LeavesOrMarks write row)
    (start : Exists fun row => rows[path]? = some row ∧
      StandingRow pair localEntry remoteEntry chosen row) :
    Exists fun row => (applyWrites rows writes)[path]? = some row ∧
      StandingRow pair localEntry remoteEntry chosen row := by
  refine applyWrites_invariant (fun row => Exists fun entry => row = some entry ∧
    StandingRow pair localEntry remoteEntry chosen entry) rows ?_ start
  rintro write member same _ ⟨row, rfl, stands⟩
  exact (each write member same row).standing stands

theorem leavesOrMarks_conflict (row : SyncedEntry) :
    LeavesOrMarks (.setStatus path .conflict) row := ⟨_, rfl, rfl, rfl, .inr rfl⟩

/-! ## The steps of a cycle -/

theorem Standing.status_ne_syncing (standing : Standing direction localEntry remoteEntry chosen row) :
    row.syncStatus ≠ .syncing := by
  intro pending
  rcases standing with marked | ⟨status, -, isResolution, resolved | ⟨failed, -⟩⟩
  · rw [pending] at marked
    cases marked
  · rw [← resolved, pending] at isResolution
    cases isResolution
  · rw [pending] at failed
    cases failed

theorem StandingRow.not_baselined (stands : StandingRow pair localEntry remoteEntry chosen row) :
    ¬isBaselined pair.preferences (some localEntry) (some remoteEntry) (some row) := by
  have resumes : resumedEntry (some localEntry) (some remoteEntry) row = none :=
    if_neg fun pending => stands.standing.status_ne_syncing pending.1
  have resumed : resumedRow (some localEntry) (some remoteEntry) (some row) = some row := by
    rw [resumedRow, Option.map_some, resumes, Option.getD_none]
  rintro (completed | ⟨adopting, adopted⟩)
  · rw [Option.bind_some, resumes] at completed
    cases completed
  · rw [resumed] at adopted
    simp only [adoptedEntry, Option.all_some] at adopted
    split at adopted
    next matching =>
      exact stands.unadopted adopting matching.2 (of_decide_eq_true matching.1).2
    · cases adopted

variable {clock : String -> Int} {stopAfter : Option Nat} {trees : FileTree × FileTree × SyncedTree}
   {refreshMetadata : List (String × TreeEntry)}

theorem InConflict.planned {remote : FileTree}
    (conflict : InConflict pair path localEntry remoteEntry mapping)
    (prepares : Prepares pair mapping clock refreshMetadata stopAfter next remote trees writes) :
    trees.1[path]? = some localEntry ∧ trees.2.1[path]? = some remoteEntry ∧
      trees.2.2[path]? = mapping.rows[path]? ∧
      (baseline pair.preferences trees.1 trees.2.1 trees.2.2).1[path]? = mapping.rows[path]? ∧
      path ∉ (baseline pair.preferences trees.1 trees.2.1 trees.2.2).2 := by
  have kept := ignores_of_scanOmits conflict.walked
  have copy : trees.1[path]? = some localEntry := by
    rw [prepares.retained, retainTreePaths_local, kept, if_neg Bool.false_ne_true]
    change (mapping.localTree.filter fun path _ => !scanOmits pair.preferences path)[path]? = _
    rw [Std.TreeMap.getElem?_filter', conflict.localCopy, Option.filter_some, conflict.walked]
    rfl
  have message : trees.2.1[path]? = some remoteEntry := by
    rw [prepares.retained, retainTreePaths_remote, kept, if_neg Bool.false_ne_true]
    exact scanRemote_of_mem prepares.scanned kept conflict.remoteCopy
  have same : trees.2.2[path]? = mapping.rows[path]? := by
    rw [prepares.retained, retainTreePaths_synced, kept, if_neg Bool.false_ne_true]
  rcases conflict.row with ⟨row, recorded, stands⟩
  have plain := stands.not_baselined
  refine ⟨copy, message, same, ?_, ?_⟩
  · rw [baseline_row, copy, message, same, recorded, baselineRow_of_not_baselined plain]
  · rw [mem_baseline_paths, copy, message, same, recorded]
    exact plain

theorem bookkeeping_leaves {scan : LocalScan} (copy : trees.1[path]? = some localEntry)
    (plain : path ∉ (baseline pair.preferences trees.1 trees.2.1 trees.2.2).2) {write : StateWrite}
    (member : write ∈ bookkeepingWrites pair.preferences clock scan trees) (same : write.path = path)
    (row : SyncedEntry) : LeavesOrMarks write row := by
  rcases List.mem_append.mp member with early | refresh
  · rcases List.mem_append.mp early with vanished | baselined
    · rcases List.mem_map.mp vanished with ⟨other, listed, rfl⟩
      have absent := (List.mem_filter.mp listed).2
      change other = path at same
      rw [same, Bool.and_eq_true, Bool.not_eq_true', Std.TreeMap.contains_eq_isSome_getElem?,
        copy] at absent
      cases absent.1
    · rcases List.mem_map.mp baselined with ⟨other, listed, rfl⟩
      change other = path at same
      exact absurd (same ▸ listed) plain
  · rcases List.mem_map.mp refresh with ⟨entry, -, rfl⟩
    refine ⟨StateWrite.refreshed entry.2 row, rfl, ?_⟩
    unfold StateWrite.refreshed
    split <;> exact ⟨rfl, rfl, .inl rfl⟩

theorem InConflict.prepare_leaves {remote : FileTree}
    (conflict : InConflict pair path localEntry remoteEntry mapping)
    (prepares : Prepares pair mapping clock refreshMetadata stopAfter next remote trees writes)
    {write : StateWrite} (member : write ∈ writes) (same : write.path = path) (row : SyncedEntry) :
    LeavesOrMarks write row := by
  rcases conflict.planned prepares with ⟨copy, message, -, compared, plain⟩
  rcases conflict.row with ⟨before, recorded, -⟩
  rw [prepares.planned] at member
  rcases mem_prepareReconciliation prepares.retained member with book | ⟨other, -, rfl⟩
  · exact bookkeeping_leaves copy plain book same row
  · have present : path ∈ (baseline pair.preferences trees.1 trees.2.1 trees.2.2).1 := by
      rw [Std.TreeMap.mem_iff_isSome_getElem?, compared, recorded]
      rfl
    rw [conflictWrite_path] at same
    rw [conflictWrite, same, if_pos present]
    exact leavesOrMarks_conflict row

theorem prepare_inConflict (conflict : InConflict pair path localEntry remoteEntry mapping)
    (kept : copiesKept messageOf pair path mapping (.prepare clock refreshMetadata stopAfter) = true)
    (moved : mapping.prepare pair clock refreshMetadata stopAfter = some next) :
    InConflict pair path localEntry remoteEntry next := by
  rcases prepares_of_prepare pair moved with ⟨remote, trees, writes, prepares⟩
  rcases conflict.planned prepares with ⟨copy, message, -, compared, plain⟩
  have chosen : next.history.chosen = mapping.history.chosen := by
    rw [prepares.history]
    rfl
  refine conflict.step kept moved ?_ ?_
  · rw [prepares.rows, chosen]
    exact standing_applyWrites
      (fun write ran same row => conflict.prepare_leaves prepares (executed_subset ran) same row)
      conflict.row
  · intro cycle present
    rcases prepares.cycle cycle present with ⟨-, prepared, rfl, from_⟩
    rcases conflict.row with ⟨row, recorded, stands⟩
    have localCopy : prepared.localTree[path]? = some localEntry := by rw [from_.localTree, copy]
    have remoteCopy : prepared.remoteTree[path]? = some remoteEntry := by
      rw [from_.remoteTree, message]
    have synced : prepared.synced[path]? = some row := by rw [from_.synced, compared, recorded]
    have listed : path ∈ prepared.synced := by
      rw [Std.TreeMap.mem_iff_isSome_getElem?, synced]
      rfl
    refine ⟨localCopy, remoteCopy, fun absent => absurd listed absent, ?_, nofun⟩
    intro operation waiting same
    rw [prepares.retained] at from_
    have planned := (from_.planned (List.mem_filter.mp waiting).1).2
    rw [same, localCopy, remoteCopy, synced] at planned
    rw [chosen]
    exact .inr ⟨listed, operationAt_standing conflict.different stands.standing planned⟩

theorem isResolution_of_resolution {status : SyncStatus} {one two : Option TreeEntry}
    {chosen : Option SyncOperation} (resolved : resolution path one two status = some chosen) :
    status.isResolution = true := by
  cases status <;> first | rfl | cases resolved

theorem perform_inConflict {now : Int} {outcome : Outcome}
    (conflict : InConflict pair path localEntry remoteEntry mapping)
    (kept : copiesKept messageOf pair path mapping (.perform now outcome) = true)
    (waits : notCarriedOut path mapping (.perform now outcome) = true)
    (moved : mapping.perform messageOf now outcome = some next) :
    InConflict pair path localEntry remoteEntry next := by
  have stepped : (mappingMachine messageOf pair).step mapping (.perform now outcome) = some next := moved
  rcases perform_eq_some moved with ⟨cycle, operation, waiting, after, running, pending, carries, rfl⟩
  have cycleBefore := conflict.cycle cycle running
  have chosen : after.history.chosen = mapping.history.chosen := carries.chosen
  -- an operation of the path has only failed, and changed nothing
  have failed : operation.path = path ->
      after = mapping ∧ Exists fun detail => outcome = .failed detail := by
    intro here
    cases outcome with
    | failed detail =>
      cases carries
      exact ⟨rfl, detail, rfl⟩
    | succeeded entry copyPath | renameFailed entry detail | orphaned entry detail =>
      simp only [notCarriedOut, running, Option.bind_some, pending, List.head?_cons,
        Option.all_some, decide_eq_true_eq] at waits
      exact absurd here waits
  refine conflict.step kept stepped ?_ ?_
  · change Exists fun row => after.rows[path]? = some row ∧
      StandingRow pair localEntry remoteEntry after.history.chosen[path]? row
    rw [chosen]
    by_cases here : operation.path = path
    · rw [(failed here).1]
      exact conflict.row
    · rw [carries.rows_other (Ne.symm here)]
      exact conflict.row
  · intro current present
    cases present
    refine ⟨cycleBefore.localCopy, cycleBefore.remoteCopy, cycleBefore.unadopted, ?_, ?_⟩
    · intro later member same
      change later = .conflict path ∨ (path ∈ cycle.prepared.synced ∧
        AwaitsChoice path localEntry remoteEntry after.history.chosen[path]? later)
      rw [chosen]
      refine cycleBefore.waiting later ?_ same
      rw [pending]
      exact List.mem_cons_of_mem _ member
    · intro result member same
      change result.success = false ∧ (result.action = .conflict ∨
        (path ∈ cycle.prepared.synced ∧ Exists fun status =>
          after.history.chosen[path]? = some status ∧ status.isResolution = true))
      rw [chosen]
      rcases List.mem_append.mp member with old | new
      · exact cycleBefore.results result old same
      · rw [List.mem_singleton.mp new] at same ⊢
        rcases failed same with ⟨-, detail, rfl⟩
        refine ⟨rfl, ?_⟩
        have first := cycleBefore.waiting operation (by rw [pending]; exact List.mem_cons_self) same
        rcases first with rfl | ⟨listed, rfl | ⟨status, isChosen, resolved⟩⟩
        · exact .inl rfl
        · exact .inl rfl
        · exact .inr ⟨listed, status, isChosen, isResolution_of_resolution resolved⟩

theorem resolve_inConflict {other : String} {status : SyncStatus}
    (conflict : InConflict pair path localEntry remoteEntry mapping)
    (kept : copiesKept messageOf pair path mapping (.resolve other status) = true)
    (moved : mapping.resolve other status = some next) :
    InConflict pair path localEntry remoteEntry next := by
  have stepped : (mappingMachine messageOf pair).step mapping (.resolve other status) = some next := moved
  rcases resolve_eq_some moved with rfl | ⟨idle, isResolution, rfl⟩
  · exact conflict
  rcases conflict.row with ⟨row, recorded, stands⟩
  refine conflict.step kept stepped ?_ ?_
  · change Exists fun row => (applyWrites mapping.rows [.setStatus other status])[path]? = some row ∧
      StandingRow pair localEntry remoteEntry (mapping.history.chosen.insert other status)[path]? row
    rw [applyWrites_singleton]
    by_cases here : other = path
    · subst here
      rw [Std.TreeMap.getElem?_insert_self, StateWrite.path, if_pos rfl, recorded]
      exact ⟨_, rfl, .inr ⟨status, rfl, isResolution, .inl rfl⟩, stands.unadopted⟩
    · have different : ¬compare other path = .eq := fun same => here (compare_eq_iff_eq.mp same)
      rw [Std.TreeMap.getElem?_insert, if_neg different, StateWrite.path, if_neg here]
      exact ⟨row, recorded, stands⟩
  · intro cycle present
    change mapping.cycle = some cycle at present
    rw [idle] at present
    cases present

theorem savePending_inConflict (conflict : InConflict pair path localEntry remoteEntry mapping)
    (kept : copiesKept messageOf pair path mapping .savePending = true)
    (moved : mapping.savePending = some next) :
    InConflict pair path localEntry remoteEntry next := by
  have stepped : (mappingMachine messageOf pair).step mapping .savePending = some next := moved
  rcases savePending_eq_some moved with ⟨cycle, result, unsaved, running, -, -, rfl⟩
  refine conflict.step kept stepped conflict.row ?_
  intro current present
  cases present
  exact (conflict.cycle cycle running).frame rfl rfl rfl rfl

theorem journal_inConflict (conflict : InConflict pair path localEntry remoteEntry mapping)
    (kept : copiesKept messageOf pair path mapping (.journal clock stopAfter) = true)
    (moved : mapping.journal clock stopAfter = some next) :
    InConflict pair path localEntry remoteEntry next := by
  have stepped : (mappingMachine messageOf pair).step mapping (.journal clock stopAfter) = some next :=
    moved
  rcases journal_eq_some moved with ⟨cycle, running, -, -, rfl⟩
  have cycleBefore := conflict.cycle cycle running
  refine conflict.step kept stepped ?_ ?_
  · -- no upload of the path has succeeded
    have absent : forall write,
        write ∈ executed stopAfter (journalUploads clock cycle.prepared.localTree cycle.results) ->
        write.path ≠ path := by
      intro write ran same
      rcases mem_journalUploads (executed_subset ran) with
        ⟨result, listed, success, -, _, _, -, -, rfl⟩
      have failed := (cycleBefore.results result listed same).1
      rw [success] at failed
      cases failed
    change Exists fun row => (applyWrites mapping.rows _)[path]? = some row ∧ _
    rw [applyWrites_of_absent mapping.rows absent]
    exact conflict.row
  · intro current present
    change (if stopAfter.isSome then none else some { cycle with journaled := true }) =
      some current at present
    split at present
    · cases present
    · cases present
      exact cycleBefore.frame rfl rfl rfl rfl

theorem settle_standing
    (conflict : InConflict pair path localEntry remoteEntry mapping) (item : PendingCleanup) :
    Exists fun row => (mapping.settle item).rows[path]? = some row ∧
      StandingRow pair localEntry remoteEntry (mapping.settle item).history.chosen[path]? row := by
  rcases settle_cases mapping item with ⟨-, done⟩ | ⟨-, done⟩ | ⟨-, done⟩ <;> rw [done]
  · exact conflict.row
  · exact conflict.row
  · refine standing_applyWrites ?_ conflict.row
    intro write member same row
    rw [List.mem_singleton.mp member]
    exact leavesOrMarks_conflict row

theorem settle_cycle (conflict : InConflict pair path localEntry remoteEntry mapping) (item : PendingCleanup)
    {cycle : Cycle} (running : (mapping.settle item).cycle = some cycle) :
    CycleInConflict pair path localEntry remoteEntry (mapping.settle item) cycle := by
  rcases settle_cases mapping item with ⟨-, done⟩ | ⟨-, done⟩ | ⟨-, done⟩ <;> rw [done] at running ⊢
  · exact (conflict.cycle cycle running).frame rfl rfl rfl rfl
  · exact conflict.cycle cycle running
  · cases running

theorem cleanUp_inConflict {saved : Bool} (conflict : InConflict pair path localEntry remoteEntry mapping)
    (kept : copiesKept messageOf pair path mapping (.cleanUp saved) = true)
    (moved : mapping.cleanUp saved = some next) :
    InConflict pair path localEntry remoteEntry next := by
  have stepped : (mappingMachine messageOf pair).step mapping (.cleanUp saved) = some next := moved
  rcases cleanUp_eq_some moved with ⟨item, rest, -, -, ⟨-, rfl⟩ | ⟨-, rfl⟩⟩
  · exact conflict.step kept stepped (settle_standing conflict item) fun cycle present =>
      (settle_cycle conflict item present).frame rfl rfl rfl rfl
  · exact conflict.step kept stepped (settle_standing conflict item) nofun

theorem failureStatus_isFailure {result : ExecutionResult} (other : result.action ≠ .conflict) :
    (failureStatus result).isFailure = true := by
  unfold failureStatus
  rw [if_neg other]
  split
  · rfl
  · split <;> rfl

theorem recorded_standing {cycle : Cycle}
    {uploaded : FileTree} {write : StateWrite} {result : ExecutionResult}
    (running : CycleInConflict pair path localEntry remoteEntry mapping cycle)
    (listed : result ∈ cycle.results) (here : result.relativePath = path)
    (stands : StandingRow pair localEntry remoteEntry mapping.history.chosen[path]? row)
    (choice : path ∈ cycle.prepared.synced -> result.action ≠ .conflict -> forall status,
      mapping.history.chosen[path]? = some status ->
      keepsChoice pair.syncDirection localEntry remoteEntry row status = true)
    (recorded : recordResult clock cycle.prepared uploaded result = some write) :
    Exists fun after => write.effect (some row) = some after ∧
      StandingRow pair localEntry remoteEntry mapping.history.chosen[path]? after ∧
      (path ∈ cycle.prepared.synced ->
        after.localHash = row.localHash ∧ after.remoteHash = row.remoteHash) := by
  rcases running.results result listed here with ⟨failed, attempt⟩
  rw [recordResult, failed, Bool.not_false, if_pos rfl, here] at recorded
  split at recorded
  next known =>
    cases recorded
    refine ⟨{ row with syncStatus := failureStatus result }, rfl, ⟨?_, stands.unadopted⟩,
      fun _ => ⟨rfl, rfl⟩⟩
    by_cases marked : result.action = .conflict
    · exact .inl (if_pos marked)
    · rcases attempt.resolve_left marked with ⟨-, status, isChosen, isResolution⟩
      exact .inr ⟨status, isChosen, isResolution, .inr ⟨failureStatus_isFailure marked,
        choice known marked status isChosen⟩⟩
  next absent =>
    cases recorded
    have marked := attempt.resolve_right fun listed => absent listed.1
    refine ⟨_, rfl, ⟨.inl (if_pos marked), ?_⟩, fun known => absurd known absent⟩
    intro adopting same
    exact absurd same (running.unadopted absent adopting)

/-- Recording the results of a cycle leaves the row standing.  The rows written
for the path keep their hashes, unless it had no row before. -/
theorem recordResults_standing {cycle : Cycle} {uploaded : FileTree}
    (running : CycleInConflict pair path localEntry remoteEntry mapping cycle)
    (present : mapping.rows[path]? = some row)
    (stands : StandingRow pair localEntry remoteEntry mapping.history.chosen[path]? row)
    (choice : forall result, result ∈ cycle.results -> result.relativePath = path ->
      result.action ≠ .conflict -> forall status, mapping.history.chosen[path]? = some status ->
      keepsChoice pair.syncDirection localEntry remoteEntry row status = true) :
    Exists fun after => (applyWrites mapping.rows (executed stopAfter
        (recordResults clock cycle.prepared cycle.results uploaded)))[path]? = some after ∧
      StandingRow pair localEntry remoteEntry mapping.history.chosen[path]? after ∧
      (path ∈ cycle.prepared.synced ->
        after.localHash = row.localHash ∧ after.remoteHash = row.remoteHash) := by
  refine applyWrites_invariant (fun after => Exists fun entry => after = some entry ∧
    StandingRow pair localEntry remoteEntry mapping.history.chosen[path]? entry ∧
    (path ∈ cycle.prepared.synced ->
      entry.localHash = row.localHash ∧ entry.remoteHash = row.remoteHash)) mapping.rows ?_
    ⟨row, present, stands, fun _ => ⟨rfl, rfl⟩⟩
  rintro write member same _ ⟨entry, rfl, entryStands, hashes⟩
  rcases List.mem_filterMap.mp (executed_subset member) with ⟨result, listed, written⟩
  have here : result.relativePath = path := (recordResult_path written).symm.trans same
  have keeps : path ∈ cycle.prepared.synced -> result.action ≠ .conflict -> forall status,
      mapping.history.chosen[path]? = some status ->
      keepsChoice pair.syncDirection localEntry remoteEntry entry status = true := by
    intro known attempt status isChosen
    rw [keepsChoice_congr (hashes known).1 (hashes known).2]
    exact choice result listed here attempt status isChosen
  rcases recorded_standing running listed here entryStands keeps written with
    ⟨after, effect, afterStands, afterHashes⟩
  refine ⟨after, effect, afterStands, fun known => ?_⟩
  rw [(afterHashes known).1, (afterHashes known).2]
  exact hashes known

theorem finish_inConflict {readBack : Bool} (conflict : InConflict pair path localEntry remoteEntry mapping)
    (kept : copiesKept messageOf pair path mapping (.finish clock readBack stopAfter) = true)
    (choice : choiceKept pair path mapping (.finish clock readBack stopAfter) = true)
    (moved : mapping.finish clock readBack stopAfter = some next) :
    InConflict pair path localEntry remoteEntry next := by
  have stepped : (mappingMachine messageOf pair).step mapping (.finish clock readBack stopAfter) =
    some next := moved
  rcases finish_eq_some moved with ⟨cycle, uploaded, running, -, -, rfl⟩
  have cycleBefore := conflict.cycle cycle running
  refine conflict.step kept stepped ?_ nofun
  rcases conflict.row with ⟨row, present, stands⟩
  have keeps : forall result, result ∈ cycle.results -> result.relativePath = path ->
      result.action ≠ .conflict -> forall status, mapping.history.chosen[path]? = some status ->
      keepsChoice pair.syncDirection localEntry remoteEntry row status = true := by
    intro result listed here attempt status isChosen
    rw [choiceKept, running, Option.all_some, List.all_eq_true] at choice
    have holds := choice result listed
    rw [decide_eq_false (not_not.mpr here), decide_eq_false attempt, isChosen,
      cycleBefore.localCopy, cycleBefore.remoteCopy, present] at holds
    exact holds
  rcases recordResults_standing cycleBefore present stands keeps with ⟨after, written, afterStands, -⟩
  exact ⟨after, written, afterStands⟩

theorem mappingMachine_inConflict {event : MappingEvent}
    (kept : copiesKept messageOf pair path mapping event = true)
    (waits : notCarriedOut path mapping event = true)
    (choice : choiceKept pair path mapping event = true)
    (conflict : InConflict pair path localEntry remoteEntry mapping)
    (moved : (mappingMachine messageOf pair).step mapping event = some next) :
    InConflict pair path localEntry remoteEntry next := by
  have stepped := moved
  cases event with
  | editLocal other entry | post other entry | edit other entry =>
    simp only [mappingMachine] at moved
    split at moved <;> cases moved
    exact conflict.step kept stepped conflict.row fun cycle present =>
      (conflict.cycle cycle present).frame rfl rfl rfl rfl
  | withdraw messageId =>
    cases moved
    exact conflict.step kept stepped conflict.row fun cycle present =>
      (conflict.cycle cycle present).frame rfl rfl rfl rfl
  | resolve other status => exact resolve_inConflict conflict kept moved
  | prepare clock refreshMetadata stopAfter => exact prepare_inConflict conflict kept moved
  | perform now outcome => exact perform_inConflict conflict kept waits moved
  | savePending => exact savePending_inConflict conflict kept moved
  | journal clock stopAfter => exact journal_inConflict conflict kept moved
  | cleanUp saved => exact cleanUp_inConflict conflict kept moved
  | finish clock readBack stopAfter => exact finish_inConflict conflict kept choice moved
  | abandon =>
    cases moved
    exact conflict.step kept stepped conflict.row nofun

/-! ## The conflict as it is found -/

theorem not_baselined_of_conflict {propagateDeletions : Bool}
    {preferences : SyncPreferences} {previous : Option SyncedEntry}
    (planned : operationAt direction propagateDeletions path (some localEntry) (some remoteEntry)
      (baselineRow preferences (some localEntry) (some remoteEntry) previous) = some (.conflict path)) :
    ¬isBaselined preferences (some localEntry) (some remoteEntry) previous := by
  intro baselined
  rcases baselineRow_of_baselined baselined with
    ⟨one, two, row, copy, message, baselinedRow, localHash, remoteHash, -, synced⟩
  cases copy
  cases message
  have skip : operationAt direction propagateDeletions path (some localEntry) (some remoteEntry)
      (some row) = some (.skip path) := by
    have compared : planPath path (some localEntry) (some remoteEntry) (some row) =
        some (.skip path) := by
      simp [planPath, comparePath, synced, localHash, remoteHash, resolution]
    rw [operationAt, compared, Option.map_some]
    cases direction <;> simp [directed, synced, SyncStatus.isResolution, redirect, withhold,
      SyncOperation.isDelete]
  rw [baselinedRow, skip] at planned
  cases planned

/-- A conflict is not planned for a row that has both hashes of the two copies,
unless that row already marks it. -/
theorem marked_of_conflict {propagateDeletions : Bool}
    (planned : operationAt direction propagateDeletions path (some localEntry) (some remoteEntry)
      (some row) = some (.conflict path))
    (localHash : row.localHash = some localEntry.hash)
    (remoteHash : row.remoteHash = some remoteEntry.hash) : row.syncStatus = .conflict := by
  by_cases resolved : row.syncStatus.isResolution = true
  · have chosen := operationAt_resolved resolved planned
    cases status : row.syncStatus <;> rw [status] at chosen <;> cases chosen
  · by_contra ordinary
    have compared : planPath path (some localEntry) (some remoteEntry) (some row) =
        some (.skip path) := by
      cases status : row.syncStatus <;> simp [status, SyncStatus.isResolution] at resolved ordinary <;>
        simp [planPath, comparePath, status, localHash, remoteHash, resolution]
    have plain : directed direction (some localEntry) (some remoteEntry) (some row) (.skip path) =
        .skip path := by
      unfold directed redirect
      cases direction <;> split <;> rfl
    rw [operationAt, compared, Option.map_some, plain] at planned
    simp [withhold, SyncOperation.isDelete] at planned

theorem unadopted_of_not_baselined {preferences : SyncPreferences} {previous : Option SyncedEntry}
    (plain : ¬isBaselined preferences (some localEntry) (some remoteEntry) previous)
    (matching : forall row, previous = some row -> row.syncStatus = .conflict ∧
      row.localHash = some localEntry.hash ∧ row.remoteHash = some remoteEntry.hash)
    (adopting : preferences.adoptMatchingFiles = true) :
    localEntry.fileSize ≠ remoteEntry.fileSize := by
  intro sizes
  refine plain (.inr ⟨adopting, ?_⟩)
  have resumed : resumedRow (some localEntry) (some remoteEntry) previous = previous := by
    cases previous with
    | none => rfl
    | some row =>
      have status := (matching row rfl).1
      simp [resumedRow, resumedEntry, status]
  rw [resumed]
  cases previous with
  | none => simp [adoptedEntry, sizes]
  | some row =>
    rcases matching row rfl with ⟨status, localHash, remoteHash⟩
    simp [adoptedEntry, sizes, status, localHash, remoteHash]

/-- The bookkeeping before a plan keeps the hashes of a row that is not baselined. -/
theorem bookkeeping_keeps_hashes {scan : LocalScan} {rows : SyncedTree}
    (copy : trees.1[path]? = some localEntry)
    (plain : path ∉ (baseline pair.preferences trees.1 trees.2.1 trees.2.2).2)
    (present : rows[path]? = some row) :
    Exists fun after =>
      (applyWrites rows (bookkeepingWrites pair.preferences clock scan trees))[path]? = some after ∧
        after.localHash = row.localHash ∧ after.remoteHash = row.remoteHash := by
  refine applyWrites_invariant (fun after => Exists fun entry => after = some entry ∧
    entry.localHash = row.localHash ∧ entry.remoteHash = row.remoteHash) rows ?_
    ⟨row, present, rfl, rfl⟩
  rintro write member same _ ⟨entry, rfl, localHash, remoteHash⟩
  rcases bookkeeping_leaves copy plain member same entry with ⟨after, written, one, two, -⟩
  exact ⟨after, written, one.trans localHash, two.trans remoteHash⟩

theorem conflict_row {scan : LocalScan} {rows : SyncedTree}
    {prepared : PreparedReconciliation} (from_ : PreparedFrom pair clock scan trees writes prepared)
    (emitted : SyncOperation.conflict path ∈ prepared.operations)
    (copy : prepared.localTree[path]? = some localEntry)
    (plain : path ∉ (baseline pair.preferences trees.1 trees.2.1 trees.2.2).2)
    (same : prepared.synced[path]? = rows[path]?) :
    Exists fun row => (applyWrites rows writes)[path]? = some row ∧ row.syncStatus = .conflict ∧
      match rows[path]? with
      | some before => row.localHash = before.localHash ∧ row.remoteHash = before.remoteHash
      | none => True := by
  have distinct : ((conflictWrites clock prepared.localTree prepared.remoteTree prepared.synced
      prepared.operations).map StateWrite.path).Nodup := by
    have all := operationsForPolicy_paths_nodup prepared.localTree prepared.remoteTree
      prepared.synced pair.syncDirection pair.preferences.propagateDeletions
    rw [← from_.operations] at all
    rw [conflictWrites, List.map_map]
    have paths : (prepared.operations.filter SyncOperation.isConflict).map
        (StateWrite.path ∘ fun operation => conflictWrite clock prepared.localTree
          prepared.remoteTree prepared.synced operation.path) =
        (prepared.operations.filter SyncOperation.isConflict).map SyncOperation.path :=
      List.map_congr_left fun operation _ => conflictWrite_path
    rw [paths]
    exact all.sublist (List.filter_sublist.map _)
  have member : conflictWrite clock prepared.localTree prepared.remoteTree prepared.synced path ∈
      conflictWrites clock prepared.localTree prepared.remoteTree prepared.synced
        prepared.operations :=
    List.mem_map.mpr ⟨.conflict path, List.mem_filter.mpr ⟨emitted, rfl⟩, rfl⟩
  have written : (applyWrites rows writes)[path]? =
      (conflictWrite clock prepared.localTree prepared.remoteTree prepared.synced path).effect
        (applyWrites rows (bookkeepingWrites pair.preferences clock scan trees))[path]? := by
    rw [from_.written, applyWrites_append]
    have marked := applyWrites_of_mem
      (applyWrites rows (bookkeepingWrites pair.preferences clock scan trees)) distinct member
    rw [conflictWrite_path] at marked
    exact marked
  rw [written]
  cases recorded : rows[path]? with
  | none =>
    have absent : path ∉ prepared.synced := by
      rw [Std.TreeMap.mem_iff_isSome_getElem?, same, recorded]
      exact Bool.false_ne_true
    rw [conflictWrite, if_neg absent]
    exact ⟨_, rfl, rfl, trivial⟩
  | some before =>
    have known : path ∈ prepared.synced := by
      rw [Std.TreeMap.mem_iff_isSome_getElem?, same, recorded]
      rfl
    rw [from_.localTree] at copy
    rcases bookkeeping_keeps_hashes copy plain recorded with ⟨after, kept, localHash, remoteHash⟩
    rw [conflictWrite, if_pos known, kept]
    exact ⟨_, rfl, rfl, localHash, remoteHash⟩

/-- A preparation that plans a conflict of two copies leaves it standing. -/
theorem inConflict_of_planned {before start : Mapping} {cycle : Cycle}
    (different : localEntry.hash ≠ remoteEntry.hash)
    (moved : before.prepare pair clock refreshMetadata stopAfter = some start)
    (begun : start.cycle = some cycle)
    (emitted : SyncOperation.conflict path ∈ cycle.prepared.operations)
    (copy : cycle.prepared.localTree[path]? = some localEntry)
    (message : cycle.prepared.remoteTree[path]? = some remoteEntry) :
    InConflict pair path localEntry remoteEntry start := by
  rcases prepares_of_prepare pair moved with ⟨remote, trees, writes, prepares⟩
  rcases prepares.cycle cycle begun with ⟨rfl, prepared, rfl, from_⟩
  have retained := from_
  rw [prepares.retained] at retained
  change SyncOperation.conflict path ∈ prepared.operations at emitted
  change prepared.localTree[path]? = some localEntry at copy
  change prepared.remoteTree[path]? = some remoteEntry at message
  have kept : pair.preferences.ignores path = false := (retained.planned emitted).1
  rcases retained.entries kept with ⟨localSame, remoteSame, rowSame⟩
  rw [← localSame, ← remoteSame, copy, message] at rowSame
  have planned : operationAt pair.syncDirection pair.preferences.propagateDeletions path
      prepared.localTree[path]? prepared.remoteTree[path]? prepared.synced[path]? =
        some (.conflict path) := (retained.planned emitted).2
  rw [copy, message, rowSame] at planned
  have plain := not_baselined_of_conflict planned
  rw [baselineRow_of_not_baselined plain] at planned rowSame
  have listed : path ∉ (baseline pair.preferences trees.1 trees.2.1 trees.2.2).2 := by
    have synced : trees.2.2[path]? = before.rows[path]? := by
      rw [prepares.retained, retainTreePaths_synced, kept, if_neg Bool.false_ne_true]
    rw [mem_baseline_paths, ← from_.localTree, ← from_.remoteTree, copy, message, synced]
    exact plain
  rcases scan_getElem? refreshMetadata (localSame.symm.trans copy) with ⟨file, walked⟩
  have found : remote[path]? = some remoteEntry := remoteSame.symm.trans message
  -- neither without a row nor with the row of this very conflict is the path adopted
  have unadopted : forall row : SyncedEntry,
      (match before.rows[path]? with
        | some before => row.localHash = before.localHash ∧ row.remoteHash = before.remoteHash
        | none => True) ->
      pair.preferences.adoptMatchingFiles = true ->
      localEntry.fileSize = remoteEntry.fileSize ->
      ¬(row.localHash = some localEntry.hash ∧ row.remoteHash = some remoteEntry.hash) := by
    intro row hashes adopting sizes both
    refine unadopted_of_not_baselined plain ?_ adopting sizes
    intro recorded present
    rw [present] at hashes planned
    rw [hashes.1, hashes.2] at both
    exact ⟨marked_of_conflict planned both.1 both.2, both⟩
  refine
    { different := different
      walked := walked
      localCopy := prepares.localTree ▸ file
      remoteCopy := prepares.messages ▸ mem_of_scanRemote prepares.scanned found
      only := ?_
      row := ?_
      cycle := ?_ }
  · intro entry member
    rw [prepares.messages] at member
    have same := scanRemote_of_mem prepares.scanned kept member
    rw [found] at same
    exact (Option.some.inj same).symm
  · rcases conflict_row from_ emitted copy listed rowSame with ⟨row, written, marked, hashes⟩
    refine ⟨row, ?_, .inl marked, unadopted row hashes⟩
    rw [prepares.rows]
    exact written
  · intro current present
    cases begun.symm.trans present
    refine ⟨copy, message, ?_, ?_, nofun⟩
    · intro absent adopting
      refine unadopted_of_not_baselined plain ?_ adopting
      intro row present
      change path ∉ prepared.synced at absent
      rw [Std.TreeMap.mem_iff_isSome_getElem?, rowSame, present] at absent
      exact absurd rfl absent
    · intro operation waiting same
      exact .inl (retained.distinct (List.mem_filter.mp waiting).1 emitted same)

/-! ## The segment and its condition -/

/-- Until a conflict of two copies is carried out or one of them changes, and as
long as failed attempts are recorded in rows that keep the choice, every plan has
for its path the conflict or the operation chosen last. -/
theorem conflict_stands_until_carried_out {before start final : Mapping} {cycle : Cycle}
    {clock : String -> Int} {refreshMetadata : List (String × TreeEntry)} {stopAfter : Option Nat}
    {events : List MappingEvent} (different : localEntry.hash ≠ remoteEntry.hash)
    (moved : (mappingMachine messageOf pair).step before (.prepare clock refreshMetadata stopAfter) =
      some start)
    (begun : start.cycle = some cycle)
    (emitted : SyncOperation.conflict path ∈ cycle.prepared.operations)
    (copy : cycle.prepared.localTree[path]? = some localEntry)
    (message : cycle.prepared.remoteTree[path]? = some remoteEntry)
    (run : (mappingMachine messageOf pair).Run (fun mapping event =>
      (copiesKept messageOf pair path mapping event && notCarriedOut path mapping event &&
        choiceKept pair path mapping event) = true) start events final) :
    forall clock refreshMetadata stopAfter next again,
      (mappingMachine messageOf pair).step final (.prepare clock refreshMetadata stopAfter) = some next ->
      next.cycle = some again ->
      Exists fun operation => operation ∈ again.prepared.operations ∧
        AwaitsChoice path localEntry remoteEntry final.history.chosen[path]? operation := by
  have conflict : InConflict pair path localEntry remoteEntry final := run.invariant _
    (fun mapping event next allowed standing stepped => by
      rw [Bool.and_eq_true, Bool.and_eq_true] at allowed
      exact mappingMachine_inConflict allowed.1.1 allowed.1.2 allowed.2 standing stepped)
    (inConflict_of_planned different moved begun emitted copy message)
  intro clock refreshMetadata stopAfter next again stepped begins
  rcases prepares_of_prepare pair stepped with ⟨remote, trees, writes, prepares⟩
  rcases prepares.cycle again begins with ⟨-, prepared, rfl, from_⟩
  rcases conflict.planned prepares with ⟨localSame, remoteSame, -, compared, -⟩
  rcases conflict.row with ⟨row, recorded, stands⟩
  have present : (some localEntry).isSome ∨ (some remoteEntry).isSome := .inl rfl
  rcases operationAt_isSome pair.syncDirection pair.preferences.propagateDeletions path (some row)
    present with ⟨operation, planned⟩
  refine ⟨operation, ?_, operationAt_standing conflict.different stands.standing planned⟩
  change operation ∈ prepared.operations
  rw [from_.operations, mem_operationsForPolicy, operationAt_path planned, from_.localTree,
    from_.remoteTree, from_.synced, localSame, remoteSame, compared, recorded]
  exact planned

/-! ## A conflict found at first sight -/

/-- Two copies appear, or two copies that were in sync both change. -/
def twoCopies (recorded : Bool) : List MappingEvent :=
  if recorded then
    .editLocal "notes" (some (sampleEntry "aa" 1 none)) ::
      sampleCycle (.succeeded (sampleEntry "v2:7" 1 (some 7)) "") ++
    [.editLocal "notes" (some (sampleEntry "bb" 2 none)), .withdraw 7,
      .post "notes" (sampleEntry "v2:8" 3 (some 8))]
  else
    [.editLocal "notes" (some (sampleEntry "bb" 2 none)),
      .post "notes" (sampleEntry "v2:8" 3 (some 8))]

/-- The conflict is reported, resolved, and the upload of the local copy fails. -/
def failedResolution : List MappingEvent :=
  (sampleCycle (.failed "Conflict requires user resolution")).tail ++
    .resolve "notes" .keepLocal :: sampleCycle (.failed "Telegram is offline")

/-- The steps from the first plan of a conflict to the plan after a failed resolution. -/
def replayResolution (recorded : Bool) (allow : Mapping -> MappingEvent -> Bool) :
    Option (Mapping × Mapping × Mapping × Mapping) :=
  let machine := mappingMachine sampleMessageOf (samplePair .bidirectional)
  (machine.replay Mapping.empty (twoCopies recorded)).bind fun before =>
    (machine.step before (.prepare (fun _ => 0) [] none)).bind fun start =>
      ((machine.guarded allow).replay start failedResolution).bind fun final =>
        (machine.step final (.prepare (fun _ => 0) [] none)).map fun next =>
          (before, start, final, next)

theorem replayResolution_eq_some {recorded : Bool} {allow : Mapping -> MappingEvent -> Bool}
    {before start final : Mapping}
    (replayed : replayResolution recorded allow = some (before, start, final, next)) :
    (mappingMachine sampleMessageOf (samplePair .bidirectional)).step before
        (.prepare (fun _ => 0) [] none) = some start ∧
      (mappingMachine sampleMessageOf (samplePair .bidirectional)).Run
        (fun mapping event => allow mapping event = true) start failedResolution final ∧
      (mappingMachine sampleMessageOf (samplePair .bidirectional)).step final
        (.prepare (fun _ => 0) [] none) = some next := by
  rcases Option.bind_eq_some_iff.mp replayed with ⟨_, -, stepped⟩
  rcases Option.bind_eq_some_iff.mp stepped with ⟨_, first, guarded⟩
  rcases Option.bind_eq_some_iff.mp guarded with ⟨_, middle, last⟩
  rcases Option.map_eq_some_iff.mp last with ⟨_, again, parts⟩
  cases parts
  exact ⟨first, Machine.run_of_guarded_replay middle, again⟩

/-- The row of a conflict found at first sight has the hashes of the two copies.
After the failed upload it is that of a pair in sync: the next plan skips the path. -/
theorem failed_resolution_forgets_conflict :
    Exists fun before => Exists fun start => Exists fun final => Exists fun next =>
      replayResolution false (fun mapping event =>
          copiesKept sampleMessageOf (samplePair .bidirectional) "notes" mapping event &&
            notCarriedOut "notes" mapping event) = some (before, start, final, next) ∧
        start.cycle.map (·.prepared.operations) = some [.conflict "notes"] ∧
        next.cycle.map (·.prepared.operations) = some [.skip "notes"] := by
  have shape : Exists fun states => replayResolution false (fun mapping event =>
      copiesKept sampleMessageOf (samplePair .bidirectional) "notes" mapping event &&
        notCarriedOut "notes" mapping event) = some states ∧
      states.2.1.cycle.map (·.prepared.operations) = some [.conflict "notes"] ∧
        states.2.2.2.cycle.map (·.prepared.operations) = some [.skip "notes"] := by
    decide +kernel
  rcases shape with ⟨⟨before, start, final, next⟩, replayed, planned⟩
  exact ⟨before, start, final, next, replayed, planned⟩

/-- With the row of an earlier transfer the failed upload keeps the choice, and
the next plan has the conflict or the chosen operation. -/
theorem failed_resolution_of_recorded_pair :
    Exists fun before => Exists fun start => Exists fun final => Exists fun next =>
      Exists fun cycle => Exists fun operation =>
        replayResolution true (fun mapping event =>
          copiesKept sampleMessageOf (samplePair .bidirectional) "notes" mapping event &&
            notCarriedOut "notes" mapping event &&
              choiceKept (samplePair .bidirectional) "notes" mapping event) =
          some (before, start, final, next) ∧
        next.cycle = some cycle ∧ operation ∈ cycle.prepared.operations ∧
        AwaitsChoice "notes" (sampleEntry "bb" 2 none) (sampleEntry "v2:8" 3 (some 8))
          final.history.chosen["notes"]? operation := by
  have shape : Exists fun states => replayResolution true (fun mapping event =>
      copiesKept sampleMessageOf (samplePair .bidirectional) "notes" mapping event &&
        notCarriedOut "notes" mapping event &&
          choiceKept (samplePair .bidirectional) "notes" mapping event) = some states ∧
      states.2.2.2.cycle.isSome = true ∧ Exists fun cycle => states.2.1.cycle = some cycle ∧
        .conflict "notes" ∈ cycle.prepared.operations ∧
        cycle.prepared.localTree["notes"]? = some (sampleEntry "bb" 2 none) ∧
        cycle.prepared.remoteTree["notes"]? = some (sampleEntry "v2:8" 3 (some 8)) := by
    decide +kernel
  rcases shape with ⟨⟨before, start, final, next⟩, replayed, continues, cycle, begun, emitted, copy, message⟩
  rcases replayResolution_eq_some replayed with ⟨moved, run, again⟩
  rcases Option.isSome_iff_exists.mp continues with ⟨later, begins⟩
  rcases conflict_stands_until_carried_out (by decide) moved begun emitted copy message run
    _ _ _ next later again begins with ⟨operation, member, awaits⟩
  exact ⟨before, start, final, next, later, operation, replayed, begins, member, awaits⟩

end SyncEngine
end TelegramDrive
