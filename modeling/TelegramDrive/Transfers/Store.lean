import Mathlib.Data.List.Sort
import TelegramDrive.Library.Table
import TelegramDrive.Transfers.Jobs

namespace TelegramDrive
namespace Transfers

/-!
# The transfer database

One row for each job, with the payload as the row, and one tombstone for each
removed id.  A write either takes effect as a whole or fails; the update of a
row with a newer one by an older one succeeds and does nothing.

Opening the database at the start of the process drops the tombstones past their
retention, removes the jobs that had a supervisor, and pauses what was running.
It stops at the first write that fails, with the earlier ones done.
-/

/-- Jobs by id, in memory or in the database. -/
abbrev JobTable : Type := Table String TransferJob TransferJob.id

/-- A removed id, with the second it was removed at where a release dated it. -/
structure Tombstone where
  id : String
  removedAt : Option Int
deriving DecidableEq

abbrev Tombstones : Type := Table String Tombstone Tombstone.id

structure TransferStore where
  rows : JobTable
  tombstones : Tombstones

def tombstoneRetentionSecs : Int := 30 * 24 * 60 * 60

/-- The revisions that fit a column of the database. -/
def revisionLimit : Nat := 2 ^ 63

/-- `saturating_add(1)` on a revision. -/
def nextRevision (revision : Nat) : Nat := if revision < 2 ^ 64 - 1 then revision + 1 else revision

namespace TransferStore

/-- `upsert_on`. -/
def upsert (store : TransferStore) (job : TransferJob) : Except String TransferStore :=
  if (store.tombstones.find? job.id).isSome then
    .error "Transfer was removed; stale updates are rejected"
  else if revisionLimit ≤ job.revision then .error "Transfer revision overflow"
  else
    match store.rows.find? job.id with
    | none => .ok { store with rows := store.rows.insert job }
    | some row =>
      if row.revision ≤ job.revision then .ok { store with rows := store.rows.insert job }
      else .ok store

/-- `upsert_many`: one transaction.  `failure` is an error of the database. -/
def upsertMany (store : TransferStore) (jobs : List TransferJob) (failure : Option String) :
    Except String TransferStore :=
  match failure with
  | some error => .error error
  | none => jobs.foldlM upsert store

/-- `INSERT OR IGNORE` of a tombstone. -/
def bury (removedAt : Int) (tombstones : Tombstones) (id : String) : Tombstones :=
  if (tombstones.find? id).isSome then tombstones else tombstones.insert ⟨id, some removedAt⟩

/-- `delete_many`: one transaction. -/
def deleteMany (store : TransferStore) (ids : List String) (removedAt : Int)
    (failure : Option String) : Except String TransferStore :=
  match failure with
  | some error => .error error
  | none => .ok ⟨store.rows.eraseAll ids, ids.foldl (bury removedAt) store.tombstones⟩

/-- `UPDATE transfer_tombstones SET removed_at = ? WHERE removed_at IS NULL`. -/
def dateTombstones (store : TransferStore) (now : Int) : TransferStore :=
  { store with
    tombstones := store.tombstones.filterMap
      (fun tombstone => some { tombstone with removedAt := some (tombstone.removedAt.getD now) })
      (fun _ _ same => by cases same; rfl) }

def Tombstone.expired (tombstone : Tombstone) (now : Int) : Bool :=
  tombstone.removedAt.any fun removedAt => decide (removedAt < now - tombstoneRetentionSecs)

/-- `DELETE FROM transfer_tombstones WHERE removed_at < ?`. -/
def dropTombstones (store : TransferStore) (now : Int) : TransferStore :=
  { store with
    tombstones := store.tombstones.filterMap
      (fun tombstone => if Tombstone.expired tombstone now then none else some tombstone)
      (fun tombstone next kept => by
        split at kept
        · cases kept
        · cases kept
          rfl) }

end TransferStore

/-! ## The start of the process -/

/-- `recover_after_restart` changes a job that was running, and one that nobody
owns and that would run. -/
def TransferJob.interrupted (job : TransferJob) : Bool :=
  job.status.isActive ||
    (job.ownerId.isNone && !job.status.isTerminal && decide (job.status ≠ .paused))

def recoverAfterRestart (job : TransferJob) (now : Int) : TransferJob :=
  if job.interrupted then
    { job with
      status := .paused
      error := some ("Interrupted transfer. Inspect the destination before resuming; " ++
        "publication may already have completed.")
      errorCategory := some (if job.ownerId.isNone then .account else .interrupted)
      retryAt := none
      speedBytesPerSec := 0
      persistencePending := false
      revision := nextRevision job.revision
      updatedAt := now }
  else job

/-- The writes of `TransferStore::open`. -/
inductive StartWrite
  | dateTombstones (now : Int)
  | dropTombstones (now : Int)
  | remove (id : String)
  | save (job : TransferJob)
deriving DecidableEq

namespace TransferStore

def applyStart (store : TransferStore) : StartWrite -> Except String TransferStore
  | .dateTombstones now => .ok (store.dateTombstones now)
  | .dropTombstones now => .ok (store.dropTombstones now)
  | .remove id => .ok { store with rows := store.rows.erase id }
  | .save job => store.upsert job

/-- Write in order until a write fails, and say whether all were done. -/
def applyStarts (store : TransferStore) : List StartWrite -> TransferStore × Bool
  | [] => (store, true)
  | write :: writes =>
    match store.applyStart write with
    | .error _ => (store, false)
    | .ok next => next.applyStarts writes

/-- `load_all_from`: the rows by queue position, then by creation. -/
def loadAll (store : TransferStore) : List TransferJob :=
  store.rows.items.insertionSort fun one two =>
    one.queuePosition < two.queuePosition ∨
      (one.queuePosition = two.queuePosition ∧ one.createdAt ≤ two.createdAt)

/-- The jobs of a start: the rows without a supervisor, recovered. -/
def startJobs (store : TransferStore) (now : Int) : List TransferJob :=
  (store.loadAll.filter fun job => job.origin.isNone).map (recoverAfterRestart · now)

def startWrites (store : TransferStore) (now seconds : Int) : List StartWrite :=
  .dateTombstones seconds :: .dropTombstones seconds ::
    ((store.loadAll.filter fun job => job.origin.isSome).map fun job => .remove job.id) ++
      ((store.loadAll.filter fun job => job.origin.isNone && job.interrupted).map fun job =>
        .save (recoverAfterRestart job now))

/-- `TransferStore::open`, where `stops` writes are done before the database
fails, if it does.  Without a failure the jobs of the process are loaded. -/
def openStore (store : TransferStore) (now seconds : Int) (stops : Option Nat) :
    TransferStore × Option (List TransferJob) :=
  match stops with
  | some done => ((store.applyStarts ((store.startWrites now seconds).take done)).1, none)
  | none =>
    let (next, all) := store.applyStarts (store.startWrites now seconds)
    (next, if all then some (store.startJobs now) else none)

end TransferStore

end Transfers
end TelegramDrive
