import Std.Data.TreeSet.Lemmas
import TelegramDrive.Library.KeyedUpdates
import TelegramDrive.SyncEngine.Trees

namespace TelegramDrive
namespace SyncEngine

/-!
# The planner

A cycle compares, path by path, the local tree, the remote tree and the
recorded state, and emits at most one operation for a path.  The operation of a
path depends on the entries at that path alone: `operationAt` is that function,
and `mem_operationsForPolicy` says that the plan is its image over all paths.

Hashes are compared with the recorded hash of the same side.  A recorded hash
that is absent never equals a present one, so a row with one hash missing sees
the copy of that side as changed.
-/

inductive SyncOperation
  | upload (relativePath : String) (localEntry : TreeEntry)
  | download (relativePath : String) (remoteEntry : TreeEntry) (keepBoth : Bool)
      (expectedLocalHash : Option String)
  | deleteLocal (relativePath : String) (expectedLocalHash : String)
  | deleteRemote (relativePath : String) (messageId : Int) (expectedRemoteHash : String)
  | conflict (relativePath : String)
  | skip (relativePath : String)
deriving DecidableEq

namespace SyncOperation

def path : SyncOperation -> String
  | upload relativePath _ => relativePath
  | download relativePath _ _ _ => relativePath
  | deleteLocal relativePath _ => relativePath
  | deleteRemote relativePath _ _ => relativePath
  | conflict relativePath => relativePath
  | skip relativePath => relativePath

def isDelete : SyncOperation -> Bool
  | deleteLocal _ _ | deleteRemote _ _ _ => true
  | _ => false

def isConflict : SyncOperation -> Bool
  | conflict _ => true
  | _ => false

def isSkip : SyncOperation -> Bool
  | skip _ => true
  | _ => false

end SyncOperation

inductive SyncError
  | massDeletionProtection (deletes syncedFiles : Nat)
deriving DecidableEq

/-- The text of the error. -/
def SyncError.message : SyncError -> String
  | massDeletionProtection deletes syncedFiles =>
    "mass deletion protection stopped " ++ toString deletes ++ " deletes across " ++
      toString syncedFiles ++ " synced files"

/-- The directions the planner distinguishes; any other text is `bidirectional`. -/
inductive Direction
  | uploadOnly
  | downloadOnly
  | bidirectional
deriving DecidableEq

/-! ## One path -/

/-- The operation of a user's resolution, `none` when its copy is missing.  The
outer option is `none` for a status that is not a resolution. -/
def resolution (relativePath : String) (localEntry remoteEntry : Option TreeEntry) :
    SyncStatus -> Option (Option SyncOperation)
  | .keepLocal => some (localEntry.map fun localEntry => .upload relativePath localEntry)
  | .keepRemote =>
    some (remoteEntry.map fun remoteEntry =>
      .download relativePath remoteEntry false (localEntry.map (·.hash)))
  | .keepBoth =>
    some (match localEntry, remoteEntry with
      | _, some remoteEntry => some (.download relativePath remoteEntry localEntry.isSome none)
      | some localEntry, none => some (.upload relativePath localEntry)
      | none, none => none)
  | _ => none

/-- The operation of a path without a conflict or a resolution. -/
def comparePath (relativePath : String) (localEntry remoteEntry : Option TreeEntry)
    (previous : Option SyncedEntry) : Option SyncOperation :=
  match localEntry, remoteEntry, previous with
  | some localEntry, none, none => some (.upload relativePath localEntry)
  | none, some remoteEntry, none => some (.download relativePath remoteEntry false none)
  | some localEntry, some remoteEntry, none =>
    if localEntry.hash = remoteEntry.hash then some (.skip relativePath)
    else some (.conflict relativePath)
  | some localEntry, none, some previous =>
    if previous.remoteHash = none then
      if previous.syncStatus = .skipped ∧ previous.localHash = some localEntry.hash then
        some (.skip relativePath)
      else some (.upload relativePath localEntry)
    else if previous.localHash ≠ some localEntry.hash then some (.conflict relativePath)
    else some (.deleteLocal relativePath localEntry.hash)
  | none, some remoteEntry, some previous =>
    if previous.localHash = none then some (.download relativePath remoteEntry false none)
    else if previous.remoteHash ≠ some remoteEntry.hash then some (.conflict relativePath)
    else
      match remoteEntry.messageId with
      | none => some (.conflict relativePath)
      | some messageId => some (.deleteRemote relativePath messageId remoteEntry.hash)
  | some localEntry, some remoteEntry, some previous =>
    match decide (previous.localHash ≠ some localEntry.hash),
        decide (previous.remoteHash ≠ some remoteEntry.hash) with
    | false, false => some (.skip relativePath)
    | true, false => some (.upload relativePath localEntry)
    | false, true => some (.download relativePath remoteEntry false (some localEntry.hash))
    | true, true =>
      if localEntry.hash = remoteEntry.hash then some (.skip relativePath)
      else some (.conflict relativePath)
  | none, none, _ => none

/-- One round of the loop of `plan_unchecked`. -/
def planPath (relativePath : String) (localEntry remoteEntry : Option TreeEntry)
    (previous : Option SyncedEntry) : Option SyncOperation :=
  match previous.bind fun previous =>
      resolution relativePath localEntry remoteEntry previous.syncStatus with
  | some chosen =>
    if localEntry.isSome ∨ remoteEntry.isSome then some (chosen.getD (.conflict relativePath))
    else none
  | none =>
    if previous.any (fun previous => previous.syncStatus = .conflict) ∧
        (localEntry.isSome ∨ remoteEntry.isSome) then
      some (.conflict relativePath)
    else comparePath relativePath localEntry remoteEntry previous

/-! ## The plan -/

/-- The paths of the three trees, in order and without repetition. -/
def treePaths (localTree remoteTree : FileTree) (synced : SyncedTree) : List String :=
  (Std.TreeSet.ofList (localTree.keys ++ remoteTree.keys ++ synced.keys)).toList

def planUnchecked (localTree remoteTree : FileTree) (synced : SyncedTree) : List SyncOperation :=
  (treePaths localTree remoteTree synced).filterMap fun relativePath =>
    planPath relativePath localTree[relativePath]? remoteTree[relativePath]? synced[relativePath]?

/-- What a mapping's direction makes of an operation, given the entries at its path. -/
def redirect (direction : Direction) (localEntry remoteEntry : Option TreeEntry)
    (operation : SyncOperation) : SyncOperation :=
  match direction, operation with
  | .uploadOnly, .deleteLocal relativePath _ =>
    match localEntry with
    | some localEntry => .upload relativePath localEntry
    | none => .skip relativePath
  | .uploadOnly, .download relativePath _ _ _ => .skip relativePath
  | .uploadOnly, .conflict relativePath =>
    match localEntry, remoteEntry with
    | some localEntry, none => .upload relativePath localEntry
    | _, _ => .conflict relativePath
  | .downloadOnly, .deleteRemote relativePath _ _ =>
    match remoteEntry with
    | some remoteEntry => .download relativePath remoteEntry false none
    | none => .skip relativePath
  | .downloadOnly, .upload relativePath _ => .skip relativePath
  | .downloadOnly, .conflict relativePath =>
    match localEntry, remoteEntry with
    | none, some remoteEntry => .download relativePath remoteEntry false none
    | _, _ => .conflict relativePath
  | _, operation => operation

/-- A resolution is carried out whatever the direction. -/
def directed (direction : Direction) (localEntry remoteEntry : Option TreeEntry)
    (previous : Option SyncedEntry) (operation : SyncOperation) : SyncOperation :=
  if previous.any fun previous => previous.syncStatus.isResolution then operation
  else redirect direction localEntry remoteEntry operation

/-- Without propagation of deletions a deletion becomes a skip. -/
def withhold (propagateDeletions : Bool) (operation : SyncOperation) : SyncOperation :=
  if !propagateDeletions && operation.isDelete then .skip operation.path else operation

def operationsForPolicy (localTree remoteTree : FileTree) (synced : SyncedTree)
    (direction : Direction) (propagateDeletions : Bool) : List SyncOperation :=
  ((planUnchecked localTree remoteTree synced).map fun operation =>
    directed direction localTree[operation.path]? remoteTree[operation.path]?
      synced[operation.path]? operation).map (withhold propagateDeletions)

/-- More deletions than half the recorded files stop the plan. -/
def enforceMassDeletion (operations : List SyncOperation) (synced : SyncedTree) :
    Except SyncError (List SyncOperation) :=
  let deletes := operations.countP SyncOperation.isDelete
  if !synced.isEmpty ∧ deletes * 2 > synced.size then
    .error (.massDeletionProtection deletes synced.size)
  else .ok operations

def planForPolicy (localTree remoteTree : FileTree) (synced : SyncedTree) (direction : Direction)
    (propagateDeletions : Bool) : Except SyncError (List SyncOperation) :=
  enforceMassDeletion
    (operationsForPolicy localTree remoteTree synced direction propagateDeletions) synced

/-! ## Baselines recorded without a transfer -/

/-- The row of a file that exists on both sides with one size and has no
recorded history, or whose history is the conflict of these same two copies. -/
def adoptedEntry (localEntry remoteEntry : Option TreeEntry) (previous : Option SyncedEntry) :
    Option SyncedEntry :=
  match localEntry, remoteEntry with
  | some localEntry, some remoteEntry =>
    if previous.all (fun previous => decide (previous.syncStatus = .conflict ∧
          previous.localHash = some localEntry.hash ∧
            previous.remoteHash = some remoteEntry.hash)) ∧
        localEntry.fileSize = remoteEntry.fileSize then
      some
        { localHash := some localEntry.hash
          remoteHash := some remoteEntry.hash
          fileSize := localEntry.fileSize
          localMtime := localEntry.modifiedAt
          remoteDate := remoteEntry.modifiedAt
          messageId := remoteEntry.messageId
          syncStatus := .synced }
    else none
  | _, _ => none

/-- The loop of `adopt_matching_files`, one local path at a time. -/
def adoptions (localTree remoteTree : FileTree) :
    KeyedUpdates SyncedTree String (Option SyncedEntry) String where
  look synced path := synced[path]?
  key path := path
  effect path previous := (adoptedEntry localTree[path]? remoteTree[path]? previous).or previous
  apply synced path := synced.alter path fun previous =>
    (adoptedEntry localTree[path]? remoteTree[path]? previous).or previous
  look_apply_same synced path := by simp
  look_apply_other synced path other different := by
    simp [Std.TreeMap.getElem?_alter, different]

/-- The recorded tree with the adopted rows, and the adopted paths. -/
def adoptMatchingFiles (localTree remoteTree : FileTree) (synced : SyncedTree) :
    SyncedTree × List String :=
  ((adoptions localTree remoteTree).applyAll synced localTree.keys,
    localTree.keys.filter fun path =>
      (adoptedEntry localTree[path]? remoteTree[path]? synced[path]?).isSome)

/-- The completed row of an upload journaled with its message id, when the file
is unchanged and that message is still at the path. -/
def resumedEntry (localEntry remoteEntry : Option TreeEntry) (previous : SyncedEntry) :
    Option SyncedEntry :=
  match localEntry, remoteEntry with
  | some localEntry, some remoteEntry =>
    if previous.syncStatus = .syncing ∧ previous.messageId ≠ none ∧
        remoteEntry.messageId = previous.messageId ∧
          previous.localHash = some localEntry.hash then
      some
        { previous with
          remoteHash := some remoteEntry.hash
          remoteDate := remoteEntry.modifiedAt
          syncStatus := .synced }
    else none
  | _, _ => none

/-- The recorded tree with the resumed rows, and the resumed paths. -/
def resumeInterruptedUploads (localTree remoteTree : FileTree) (synced : SyncedTree) :
    SyncedTree × List String :=
  (synced.map fun path previous =>
      (resumedEntry localTree[path]? remoteTree[path]? previous).getD previous,
    synced.keys.filter fun path =>
      (synced[path]?.bind (resumedEntry localTree[path]? remoteTree[path]?)).isSome)

/-! ## The plan path by path -/

theorem mem_treePaths {localTree remoteTree : FileTree} {synced : SyncedTree} {path : String} :
    path ∈ treePaths localTree remoteTree synced ↔
      path ∈ localTree ∨ path ∈ remoteTree ∨ path ∈ synced := by
  rw [treePaths, Std.TreeSet.mem_toList, Std.TreeSet.mem_ofList, List.contains_iff_mem,
    List.mem_append, List.mem_append, Std.TreeMap.mem_keys, Std.TreeMap.mem_keys,
    Std.TreeMap.mem_keys, or_assoc]

theorem treePaths_nodup (localTree remoteTree : FileTree) (synced : SyncedTree) :
    (treePaths localTree remoteTree synced).Nodup := by
  have distinct : (treePaths localTree remoteTree synced).Pairwise fun first second =>
      ¬compare first second = .eq := Std.TreeSet.distinct_toList
  refine distinct.imp fun different same => different ?_
  rw [same]
  exact Std.ReflCmp.compare_self

variable {localEntry remoteEntry : Option TreeEntry} {operation : SyncOperation} {relativePath : String}

theorem resolution_path {status : SyncStatus}
    (chosen : resolution relativePath localEntry remoteEntry status = some (some operation)) :
    operation.path = relativePath := by
  unfold resolution at chosen
  split at chosen <;> simp only [Option.some.injEq, reduceCtorEq, Option.map_eq_some_iff] at chosen
  · rcases chosen with ⟨localEntry, -, rfl⟩
    rfl
  · rcases chosen with ⟨remoteEntry, -, rfl⟩
    rfl
  · split at chosen <;> simp only [Option.some.injEq, reduceCtorEq] at chosen <;> rw [← chosen] <;> rfl

variable {previous : Option SyncedEntry}

theorem comparePath_path
    (planned : comparePath relativePath localEntry remoteEntry previous = some operation) :
    operation.path = relativePath := by
  unfold comparePath at planned
  grind [SyncOperation.path]

theorem planPath_path (planned : planPath relativePath localEntry remoteEntry previous = some operation) :
    operation.path = relativePath := by
  unfold planPath at planned
  split at planned
  next chosen selected =>
    split at planned <;> cases planned
    rcases Option.bind_eq_some_iff.mp selected with ⟨row, -, resolved⟩
    cases chosen with
    | none => rfl
    | some operation => exact resolution_path resolved
  · split at planned
    · cases planned
      rfl
    · exact comparePath_path planned

@[simp] theorem redirect_path (direction : Direction) (localEntry remoteEntry : Option TreeEntry)
    (operation : SyncOperation) :
    (redirect direction localEntry remoteEntry operation).path = operation.path := by
  unfold redirect
  grind [SyncOperation.path]

@[simp] theorem directed_path (direction : Direction) (localEntry remoteEntry : Option TreeEntry)
    (previous : Option SyncedEntry) (operation : SyncOperation) :
    (directed direction localEntry remoteEntry previous operation).path = operation.path := by
  unfold directed
  split
  · rfl
  · exact redirect_path direction localEntry remoteEntry operation

@[simp] theorem withhold_path (propagateDeletions : Bool) (operation : SyncOperation) :
    (withhold propagateDeletions operation).path = operation.path := by
  unfold withhold
  split <;> rfl

/-- The operation of one path under a mapping's policy. -/
def operationAt (direction : Direction) (propagateDeletions : Bool) (relativePath : String)
    (localEntry remoteEntry : Option TreeEntry) (previous : Option SyncedEntry) :
    Option SyncOperation :=
  (planPath relativePath localEntry remoteEntry previous).map fun operation =>
    withhold propagateDeletions (directed direction localEntry remoteEntry previous operation)

variable {direction : Direction}

theorem operationAt_path {propagateDeletions : Bool}
    (planned : operationAt direction propagateDeletions relativePath localEntry remoteEntry previous =
      some operation) : operation.path = relativePath := by
  rcases Option.map_eq_some_iff.mp planned with ⟨compared, selected, rfl⟩
  rw [withhold_path, directed_path, planPath_path selected]

@[simp] theorem operationAt_absent (direction : Direction) (propagateDeletions : Bool)
    (relativePath : String) (previous : Option SyncedEntry) :
    operationAt direction propagateDeletions relativePath none none previous = none := by
  unfold operationAt planPath comparePath
  split <;> simp

theorem operationAt_isSome (direction : Direction) (propagateDeletions : Bool)
    (relativePath : String)
    (previous : Option SyncedEntry) (present : localEntry.isSome ∨ remoteEntry.isSome) :
    Exists fun operation => operationAt direction propagateDeletions relativePath localEntry
      remoteEntry previous = some operation := by
  rw [← Option.isSome_iff_exists, operationAt, Option.isSome_map]
  unfold planPath
  split
  · rw [if_pos present]
    rfl
  · split
    · rfl
    · unfold comparePath
      rcases localEntry with _ | localEntry <;> rcases remoteEntry with _ | remoteEntry <;>
        rcases previous with _ | row <;> simp at present ⊢ <;> grind

/-- The plan is the operation of every path, in the order of the paths. -/
theorem operationsForPolicy_eq (localTree remoteTree : FileTree) (synced : SyncedTree)
    (direction : Direction) (propagateDeletions : Bool) :
    operationsForPolicy localTree remoteTree synced direction propagateDeletions =
      (treePaths localTree remoteTree synced).filterMap fun path =>
        operationAt direction propagateDeletions path localTree[path]? remoteTree[path]?
          synced[path]? := by
  rw [operationsForPolicy, planUnchecked, List.map_filterMap, List.map_filterMap]
  refine List.filterMap_congr fun path _ => ?_
  rw [operationAt, Option.map_map]
  refine Option.map_congr fun operation planned => ?_
  rw [Function.comp_apply, planPath_path planned]

theorem mem_operationsForPolicy {localTree remoteTree : FileTree} {synced : SyncedTree}
    {propagateDeletions : Bool} :
    operation ∈ operationsForPolicy localTree remoteTree synced direction propagateDeletions ↔
      operationAt direction propagateDeletions operation.path localTree[operation.path]?
        remoteTree[operation.path]? synced[operation.path]? = some operation := by
  rw [operationsForPolicy_eq, List.mem_filterMap]
  constructor
  · rintro ⟨path, -, planned⟩
    rw [operationAt_path planned]
    exact planned
  · intro planned
    refine ⟨operation.path, ?_, planned⟩
    rw [mem_treePaths]
    by_contra absent
    rw [not_or, not_or] at absent
    rw [Std.TreeMap.getElem?_eq_none absent.1, Std.TreeMap.getElem?_eq_none absent.2.1,
      operationAt_absent] at planned
    cases planned

theorem operationsForPolicy_paths_nodup (localTree remoteTree : FileTree) (synced : SyncedTree)
    (direction : Direction) (propagateDeletions : Bool) :
    ((operationsForPolicy localTree remoteTree synced direction propagateDeletions).map
      SyncOperation.path).Nodup := by
  rw [operationsForPolicy_eq, List.map_filterMap]
  refine (treePaths_nodup localTree remoteTree synced).filterMap ?_
  intro first second path firstMember secondMember
  rcases Option.map_eq_some_iff.mp firstMember with ⟨one, onePlanned, rfl⟩
  rcases Option.map_eq_some_iff.mp secondMember with ⟨two, twoPlanned, same⟩
  rw [← operationAt_path onePlanned, ← operationAt_path twoPlanned, same]

/-! ## What an operation says about its path -/

/-- A row that is neither a conflict nor a resolution of one. -/
def SyncedEntry.IsOrdinary (row : SyncedEntry) : Prop :=
  row.syncStatus ≠ .conflict ∧ row.syncStatus.isResolution = false

/-- What the planner saw at a path when it emitted an operation for it. -/
def Warranted (localEntry remoteEntry : Option TreeEntry) (previous : Option SyncedEntry) :
    SyncOperation -> Prop
  | .upload _ entry =>
    localEntry = some entry ∧ (remoteEntry = none ∨ Exists fun row => previous = some row ∧
      (row.syncStatus = .keepLocal ∨ (row.IsOrdinary ∧ row.localHash ≠ some entry.hash ∧
        row.remoteHash = remoteEntry.map (·.hash))))
  | .download _ entry keepBoth expected =>
    remoteEntry = some entry ∧
      if keepBoth then
        expected = none ∧ localEntry.isSome ∧ Exists fun row =>
          previous = some row ∧ row.syncStatus = .keepBoth
      else
        expected = localEntry.map (·.hash) ∧
          (localEntry = none ∨ Exists fun row => previous = some row ∧
            (row.syncStatus = .keepRemote ∨ (row.IsOrdinary ∧
              row.remoteHash ≠ some entry.hash ∧ row.localHash = localEntry.map (·.hash))))
  | .deleteLocal _ hash =>
    localEntry.map (·.hash) = some hash ∧ remoteEntry = none ∧ Exists fun row =>
      previous = some row ∧ row.IsOrdinary ∧ row.localHash = some hash ∧ row.remoteHash ≠ none
  | .deleteRemote _ messageId hash =>
    localEntry = none ∧ remoteEntry.map (·.hash) = some hash ∧
      remoteEntry.bind (·.messageId) = some messageId ∧ Exists fun row =>
        previous = some row ∧ row.IsOrdinary ∧ row.remoteHash = some hash ∧ row.localHash ≠ none
  | .conflict _ | .skip _ => localEntry.isSome ∨ remoteEntry.isSome

theorem planPath_warranted
    (planned : planPath relativePath localEntry remoteEntry previous = some operation) :
    Warranted localEntry remoteEntry previous operation := by
  unfold planPath at planned
  rcases localEntry with _ | localEntry <;> rcases remoteEntry with _ | remoteEntry <;>
    rcases previous with _ | row <;> simp [comparePath] at planned
  all_goals
    try cases status : row.syncStatus <;> simp [status, resolution] at planned
  all_goals
    grind [Warranted, SyncedEntry.IsOrdinary, SyncStatus.isResolution]

theorem redirect_warranted (warranted : Warranted localEntry remoteEntry previous operation) :
    Warranted localEntry remoteEntry previous
      (redirect direction localEntry remoteEntry operation) := by
  rcases localEntry with _ | localEntry <;> rcases remoteEntry with _ | remoteEntry <;>
    cases direction <;> cases operation <;> simp_all [redirect, Warranted]

theorem operationAt_warranted {propagateDeletions : Bool}
    (planned : operationAt direction propagateDeletions relativePath localEntry remoteEntry previous =
      some operation) : Warranted localEntry remoteEntry previous operation := by
  rcases Option.map_eq_some_iff.mp planned with ⟨compared, selected, rfl⟩
  have plain := planPath_warranted selected
  have chosen : Warranted localEntry remoteEntry previous
      (directed direction localEntry remoteEntry previous compared) := by
    unfold directed
    split
    · exact plain
    · exact redirect_warranted plain
  have present : localEntry.isSome ∨ remoteEntry.isSome := by
    rcases localEntry with _ | localEntry <;> rcases remoteEntry with _ | remoteEntry <;>
      simp_all [planPath, comparePath]
  unfold withhold
  split
  · exact present
  · exact chosen

end SyncEngine
end TelegramDrive
