import TelegramDrive.SyncEngine.Planner

namespace TelegramDrive
namespace SyncEngine

/-!
# What a plan may do

Every operation of a plan is safe for the entries at its path: it carries the copy it
moves, and it overwrites or deletes a copy only when that copy is the recorded one, unless
the user decided for the other side.  A mapping of one direction plans nothing that writes
to the side it copies from.
-/

variable {localTree remoteTree : FileTree} {synced : SyncedTree} {direction : Direction}
  {propagateDeletions : Bool} {localEntry remoteEntry : Option TreeEntry} {previous : Option SyncedEntry}
  {operation : SyncOperation}

/-! ## Safe operations -/

/-- The user decided for one of the sides. -/
def Overridden (previous : Option SyncedEntry) : Prop :=
  Exists fun row => previous = some row ∧ (row.syncStatus = .keepLocal ∨ row.syncStatus = .keepRemote)

/-- The copy on the local side is the one that was recorded. -/
def LocalRecorded (localEntry : TreeEntry) (previous : Option SyncedEntry) : Prop :=
  Exists fun row => previous = some row ∧ row.localHash = some localEntry.hash

def RemoteRecorded (remoteEntry : TreeEntry) (previous : Option SyncedEntry) : Prop :=
  Exists fun row => previous = some row ∧ row.remoteHash = some remoteEntry.hash

/-- What an operation may be, given the entries at its path. -/
def SafeFor (localEntry remoteEntry : Option TreeEntry) (previous : Option SyncedEntry) :
    SyncOperation -> Prop
  | .upload _ entry =>
    localEntry = some entry ∧ (¬ Overridden previous ->
      forall remote, remoteEntry = some remote -> RemoteRecorded remote previous)
  | .download _ entry keepBoth expected =>
    remoteEntry = some entry ∧ (¬ Overridden previous -> keepBoth = false ->
      forall present, localEntry = some present ->
        LocalRecorded present previous ∧ expected = some present.hash)
  | .deleteLocal _ expected =>
    remoteEntry = none ∧ Exists fun present =>
      localEntry = some present ∧ LocalRecorded present previous ∧ expected = present.hash
  | .deleteRemote _ messageId expected =>
    localEntry = none ∧ Exists fun remote =>
      remoteEntry = some remote ∧ RemoteRecorded remote previous ∧ expected = remote.hash ∧
        remote.messageId = some messageId
  | .conflict _ | .skip _ => True

theorem Warranted.safe (warranted : Warranted localEntry remoteEntry previous operation) :
    SafeFor localEntry remoteEntry previous operation := by
  cases operation with
  | upload relativePath entry =>
    rcases warranted with ⟨own, reason⟩
    refine ⟨own, fun plain remote present => ?_⟩
    rcases reason with absent | ⟨row, recorded, chosen | ordinary⟩
    · rw [absent] at present
      cases present
    · exact absurd ⟨row, recorded, Or.inl chosen⟩ plain
    · refine ⟨row, recorded, ?_⟩
      rw [ordinary.2.2, present]
      rfl
  | download relativePath entry keepBoth expected =>
    rcases warranted with ⟨own, reason⟩
    refine ⟨own, fun plain single present here => ?_⟩
    rw [single, if_neg Bool.false_ne_true] at reason
    rcases reason with ⟨expects, absent | ⟨row, recorded, chosen | ordinary⟩⟩
    · rw [absent] at here
      cases here
    · exact absurd ⟨row, recorded, Or.inr chosen⟩ plain
    · rw [here] at expects ordinary
      exact ⟨⟨row, recorded, ordinary.2.2⟩, expects⟩
  | deleteLocal relativePath expected =>
    rcases warranted with ⟨hash, absent, row, recorded, -, same, -⟩
    rcases Option.map_eq_some_iff.mp hash with ⟨present, here, rfl⟩
    exact ⟨absent, present, here, ⟨row, recorded, same⟩, rfl⟩
  | deleteRemote relativePath messageId expected =>
    rcases warranted with ⟨absent, hash, message, row, recorded, -, same, -⟩
    rcases Option.map_eq_some_iff.mp hash with ⟨remote, here, rfl⟩
    rw [here] at message
    exact ⟨absent, remote, here, ⟨row, recorded, same⟩, rfl, message⟩
  | conflict relativePath | skip relativePath => exact trivial

variable {relativePath : String}

/-- A row in conflict stays one as long as both copies exist. -/
theorem operationAt_of_conflict {present remote : TreeEntry} {row : SyncedEntry}
    (status : row.syncStatus = .conflict) :
    operationAt direction propagateDeletions relativePath (some present) (some remote) (some row) =
      some (.conflict relativePath) := by
  have unresolved : (some row).any (fun row => row.syncStatus.isResolution) = false := by
    rw [Option.any_some, status]
    rfl
  have planned : planPath relativePath (some present) (some remote) (some row) = some (.conflict relativePath) := by
    unfold planPath
    rw [Option.bind_some, status]
    simp [resolution, status]
  unfold operationAt
  rw [planned, Option.map_some]
  unfold directed
  rw [if_neg (by rw [unresolved]; exact Bool.false_ne_true)]
  cases direction <;> simp [redirect, withhold, SyncOperation.isDelete]

/-- On whatever trees, a plan has one operation for a path at most, each of them is safe,
and a row in conflict yields nothing but the conflict while both copies exist. -/
theorem plan_is_safe (localTree remoteTree : FileTree) (synced : SyncedTree) (direction : Direction)
    (propagateDeletions : Bool) :
    ((operationsForPolicy localTree remoteTree synced direction propagateDeletions).map
      SyncOperation.path).Nodup ∧
    forall operation, operation ∈ operationsForPolicy localTree remoteTree synced direction propagateDeletions ->
      SafeFor localTree[operation.path]? remoteTree[operation.path]? synced[operation.path]? operation ∧
      forall row, synced[operation.path]? = some row -> row.syncStatus = .conflict ->
        operation.path ∈ localTree -> operation.path ∈ remoteTree -> operation = .conflict operation.path := by
  refine ⟨operationsForPolicy_paths_nodup localTree remoteTree synced direction propagateDeletions, ?_⟩
  intro operation member
  have planned := mem_operationsForPolicy.mp member
  refine ⟨(operationAt_warranted planned).safe, ?_⟩
  intro row recorded status here there
  rw [Std.TreeMap.getElem?_eq_some_getElem here, Std.TreeMap.getElem?_eq_some_getElem there, recorded,
    operationAt_of_conflict status] at planned
  exact (Option.some.inj planned).symm

/-! ## One direction -/

/-- The operation writes to the side that a mapping only copies from. -/
def writesToSource : Direction -> SyncOperation -> Bool
  | .uploadOnly, .download _ _ _ _ | .uploadOnly, .deleteLocal _ _ => true
  | .downloadOnly, .upload _ _ | .downloadOnly, .deleteRemote _ _ _ => true
  | _, _ => false

theorem redirect_spares_source (direction : Direction) (localEntry remoteEntry : Option TreeEntry)
    (operation : SyncOperation) :
    writesToSource direction (redirect direction localEntry remoteEntry operation) = false := by
  cases direction <;> cases operation <;> unfold redirect <;> dsimp only <;>
    (try split) <;> rfl

theorem withhold_spares_source (spared : writesToSource direction operation = false) :
    writesToSource direction (withhold propagateDeletions operation) = false := by
  unfold withhold
  split
  · cases direction <;> rfl
  · exact spared

/-- Only a resolution of the user can write to the source. -/
theorem operationAt_spares_source
    (planned : operationAt direction propagateDeletions relativePath localEntry remoteEntry previous =
      some operation) (writes : writesToSource direction operation = true) :
    Exists fun row => previous = some row ∧ row.syncStatus.isResolution = true := by
  rcases Option.map_eq_some_iff.mp planned with ⟨compared, -, rfl⟩
  by_contra plain
  have unresolved : ¬ (previous.any fun row => row.syncStatus.isResolution) = true := by
    intro resolved
    rcases (Option.any_eq_true _ _).mp resolved with ⟨row, recorded, resolution⟩
    exact plain ⟨row, recorded, resolution⟩
  have spared := redirect_spares_source direction localEntry remoteEntry compared
  unfold directed at writes
  rw [if_neg unresolved, withhold_spares_source spared] at writes
  cases writes

/-- A local file that is not the recorded one, and has no copy on the other side. -/
theorem operationAt_restores_remote {entry : TreeEntry} (changed : forall row, previous = some row ->
      row.localHash ≠ some entry.hash ∧ row.syncStatus ≠ .keepRemote) :
    operationAt .uploadOnly propagateDeletions relativePath (some entry) none previous =
      some (.upload relativePath entry) := by
  cases previous with
  | none => cases propagateDeletions <;> rfl
  | some row =>
    rcases changed row rfl with ⟨differs, kept⟩
    have planned : (planPath relativePath (some entry) none (some row)).map
        (directed .uploadOnly (some entry) none (some row)) = some (.upload relativePath entry) := by
      unfold planPath directed
      cases status : row.syncStatus <;>
        simp_all [resolution, comparePath, redirect, SyncStatus.isResolution]
      all_goals split <;> simp
    unfold operationAt
    rcases Option.map_eq_some_iff.mp planned with ⟨compared, selected, same⟩
    rw [selected, Option.map_some, same]
    simp [withhold, SyncOperation.isDelete]

theorem operationAt_restores_local {entry : TreeEntry} (changed : forall row, previous = some row ->
      row.remoteHash ≠ some entry.hash ∧ row.syncStatus ≠ .keepLocal) :
    operationAt .downloadOnly propagateDeletions relativePath none (some entry) previous =
      some (.download relativePath entry false none) := by
  cases previous with
  | none => cases propagateDeletions <;> rfl
  | some row =>
    rcases changed row rfl with ⟨differs, kept⟩
    have planned : (planPath relativePath none (some entry) (some row)).map
        (directed .downloadOnly none (some entry) (some row)) =
          some (.download relativePath entry false none) := by
      unfold planPath directed
      cases status : row.syncStatus <;>
        simp_all [resolution, comparePath, redirect, SyncStatus.isResolution]
      all_goals split <;> simp
    unfold operationAt
    rcases Option.map_eq_some_iff.mp planned with ⟨compared, selected, same⟩
    rw [selected, Option.map_some, same]
    simp [withhold, SyncOperation.isDelete]

/-- A mapping of one direction writes to its source only where the user asked for it, and
restores the copies of the source that differ from what was recorded and are missing on
the other side, unless the user decided for that other side. -/
theorem one_way_plan (localTree remoteTree : FileTree) (synced : SyncedTree) (propagateDeletions : Bool) :
    (forall direction operation,
      operation ∈ operationsForPolicy localTree remoteTree synced direction propagateDeletions ->
      writesToSource direction operation = true ->
      Exists fun row => synced[operation.path]? = some row ∧ row.syncStatus.isResolution = true) ∧
    (forall path entry, localTree[path]? = some entry -> remoteTree[path]? = none ->
      (forall row, synced[path]? = some row ->
        row.localHash ≠ some entry.hash ∧ row.syncStatus ≠ .keepRemote) ->
      .upload path entry ∈ operationsForPolicy localTree remoteTree synced .uploadOnly propagateDeletions) ∧
    (forall path entry, remoteTree[path]? = some entry -> localTree[path]? = none ->
      (forall row, synced[path]? = some row ->
        row.remoteHash ≠ some entry.hash ∧ row.syncStatus ≠ .keepLocal) ->
      .download path entry false none ∈
        operationsForPolicy localTree remoteTree synced .downloadOnly propagateDeletions) := by
  refine ⟨?_, ?_, ?_⟩
  · intro direction operation member writes
    exact operationAt_spares_source (mem_operationsForPolicy.mp member) writes
  · intro path entry here absent changed
    rw [mem_operationsForPolicy, SyncOperation.path, here, absent]
    exact operationAt_restores_remote changed
  · intro path entry here absent changed
    rw [mem_operationsForPolicy, SyncOperation.path, here, absent]
    exact operationAt_restores_local changed

/-! ## A resolution that has lost its copy -/

/-- The user decided for the copy on Telegram, which is gone, and the local file changed. -/
theorem lost_resolution_is_a_conflict :
    let localTree : FileTree := .ofList [("a", (⟨"new", 1, none, none⟩ : TreeEntry))]
    let row : SyncedEntry := ⟨some "old", some "sent", 1, none, none, some 5, .keepRemote⟩
    let synced : SyncedTree := .ofList [("a", row)]
    operationsForPolicy localTree ∅ synced .uploadOnly true = [.conflict "a"] ∧
      .upload "a" ⟨"new", 1, none, none⟩ ∉ operationsForPolicy localTree ∅ synced .uploadOnly true := by
  decide +kernel

end SyncEngine
end TelegramDrive
