import TelegramDrive.Transfers.Commits

namespace TelegramDrive
namespace Transfers

/-!
# One id of the queue

A slot is all that the database, the memory and the history have under one id.
Every step acts on each slot by itself, in one of a few ways, and each of these
keeps a slot sound: the row is no newer than the job in memory, an ended job that
is saved has its status in the row, and a removed id has neither.
-/

structure Slot where
  row : Option TransferJob
  tombstone : Option Tombstone
  job : Option TransferJob
  pending : Option TransferJob
  operating : Prop
  succeeded : Prop
  retained : Int -> Prop

def TransferQueue.slot (queue : TransferQueue) (id : String) : Slot where
  row := queue.engine.store.rows.find? id
  tombstone := queue.engine.store.tombstones.find? id
  job := queue.engine.jobs.find? id
  pending := queue.engine.pendingCommits.find? id
  operating := id ∈ queue.operations.map (·.id)
  succeeded := id ∈ queue.succeeded
  retained := fun time => (id, time) ∈ queue.retained

namespace Slot

/-- The copy in memory of a result whose commit is still to be repeated. -/
structure CopyOf (job pending : TransferJob) : Prop where
  unsaved : job.persistencePending = true
  revision : job.revision = pending.revision
  status : job.status = pending.status
  ownerId : job.ownerId = pending.ownerId

/-- A row that is no newer than the job, and agrees with it once it has ended. -/
structure RowOf (row job : TransferJob) : Prop where
  revision : row.revision ≤ job.revision
  status : job.persistencePending = false -> job.status.isTerminal = true -> row.status = job.status

theorem RowOf.refl (job : TransferJob) : RowOf job job := ⟨Nat.le_refl _, fun _ _ => rfl⟩

structure Sound (slot : Slot) : Prop where
  apart : slot.row.isSome -> slot.tombstone = none
  stored : forall job, slot.job = some job -> Exists fun row => slot.row = some row ∧ RowOf row job
  copied : forall pending, slot.pending = some pending ->
    Exists fun job => slot.job = some job ∧ CopyOf job pending
  copyOwned : forall pending, slot.pending = some pending -> pending.ownerId.isSome
  owned : slot.operating -> forall job, slot.job = some job -> job.ownerId.isSome
  uncopied : slot.operating -> slot.pending = none
  accounted : slot.operating ∨ slot.succeeded -> slot.row.isSome ∨ slot.tombstone.isSome
  completed : slot.succeeded -> forall job, slot.job = some job -> job.status = .completed
  once : slot.operating -> ¬ slot.succeeded
  buried : forall time, slot.retained time ->
    Exists fun tombstone => slot.tombstone = some tombstone ∧ tombstone.removedAt = some time

variable {slot : Slot}

/-- A job in memory has a row, and its id was not removed. -/
theorem Sound.unburied (sound : slot.Sound) {job : TransferJob} (found : slot.job = some job) :
    slot.tombstone = none := by
  rcases sound.stored job found with ⟨row, listed, -⟩
  exact sound.apart (listed ▸ rfl)

theorem Sound.pending_none (sound : slot.Sound) {job : TransferJob} (found : slot.job = some job)
    (saved : job.persistencePending = false) : slot.pending = none := by
  apply Option.eq_none_iff_forall_ne_some.mpr
  intro pending waiting
  rcases sound.copied pending waiting with ⟨other, listed, copy⟩
  cases found.symm.trans listed
  cases saved.symm.trans copy.unsaved

theorem Sound.pending_none_of_absent (sound : slot.Sound) (absent : slot.job = none) :
    slot.pending = none := by
  apply Option.eq_none_iff_forall_ne_some.mpr
  intro pending waiting
  rcases sound.copied pending waiting with ⟨job, listed, -⟩
  cases absent.symm.trans listed

/-! ## What a step does to a slot -/

theorem Sound.commit (sound : slot.Sound) {job : TransferJob} (clear : slot.tombstone = none)
    (copy : forall pending, slot.pending = some pending -> CopyOf job pending)
    (owned : slot.operating -> job.ownerId.isSome)
    (completed : slot.succeeded -> job.status = .completed) :
    Sound { slot with row := some job, job := some job } where
  apart _ := clear
  stored other found := by
    cases found
    exact ⟨job, rfl, .refl job⟩
  copied pending waiting := ⟨job, rfl, copy pending waiting⟩
  copyOwned := sound.copyOwned
  owned operating other found := by
    cases found
    exact owned operating
  uncopied := sound.uncopied
  accounted _ := Or.inl rfl
  completed succeeded other found := by
    cases found
    exact completed succeeded
  once := sound.once
  buried := sound.buried

theorem Sound.saved (sound : slot.Sound) : Sound { slot with pending := none } where
  apart := sound.apart
  stored := sound.stored
  copied _ waiting := nomatch waiting
  copyOwned _ waiting := nomatch waiting
  owned := sound.owned
  uncopied _ := rfl
  accounted := sound.accounted
  completed := sound.completed
  once := sound.once
  buried := sound.buried

theorem Sound.touch (sound : slot.Sound) {job next : TransferJob} (found : slot.job = some job)
    (later : job.revision ≤ next.revision) (unended : next.status.isTerminal = false)
    (waits : slot.pending = none) (owner : next.ownerId = job.ownerId)
    (unfinished : job.status ≠ .completed) : Sound { slot with job := some next } where
  apart := sound.apart
  stored other listed := by
    cases listed
    rcases sound.stored job found with ⟨row, stands, same⟩
    refine ⟨row, stands, same.revision.trans later, ?_⟩
    intro _ ended
    cases unended.symm.trans ended
  copied pending waiting := by cases waits.symm.trans waiting
  copyOwned := sound.copyOwned
  owned operating other listed := by
    cases listed
    rw [owner]
    exact sound.owned operating job found
  uncopied := sound.uncopied
  accounted := sound.accounted
  completed succeeded := absurd (sound.completed succeeded job found) unfinished
  once := sound.once
  buried := sound.buried

theorem Sound.unsaved (sound : slot.Sound) {job result copy : TransferJob} (found : slot.job = some job)
    (same : CopyOf copy result) (later : job.revision ≤ result.revision)
    (owner : result.ownerId.isSome) (idle : ¬ slot.operating)
    (completed : slot.succeeded -> result.status = .completed) :
    Sound { slot with job := some copy, pending := some result } where
  apart := sound.apart
  stored other listed := by
    cases listed
    rcases sound.stored job found with ⟨row, stands, rowOf⟩
    refine ⟨row, stands, ?_, ?_⟩
    · rw [same.revision]
      exact rowOf.revision.trans later
    · intro saved
      cases saved.symm.trans same.unsaved
  copied pending waiting := by
    cases waiting
    exact ⟨copy, rfl, same⟩
  copyOwned pending waiting := by
    cases waiting
    exact owner
  owned operating := absurd operating idle
  uncopied operating := absurd operating idle
  accounted := sound.accounted
  completed succeeded other listed := by
    cases listed
    rw [same.status]
    exact completed succeeded
  once operating := absurd operating idle
  buried := sound.buried

theorem Sound.begin (sound : slot.Sound) {job : TransferJob} (found : slot.job = some job)
    (waits : slot.pending = none) (owner : job.ownerId.isSome) (fresh : ¬ slot.succeeded) :
    Sound { slot with operating := True } where
  apart := sound.apart
  stored := sound.stored
  copied := sound.copied
  copyOwned := sound.copyOwned
  owned _ other listed := by
    cases found.symm.trans listed
    exact owner
  uncopied _ := waits
  accounted _ := by
    rcases sound.stored job found with ⟨row, stands, -⟩
    exact Or.inl (stands ▸ rfl)
  completed := sound.completed
  once _ := fresh
  buried := sound.buried

theorem Sound.weaken (sound : slot.Sound) {operating succeeded : Prop} {retained : Int -> Prop}
    (runs : operating -> slot.operating) (done : succeeded -> slot.succeeded)
    (kept : forall time, retained time -> slot.retained time) :
    Sound { slot with operating := operating, succeeded := succeeded, retained := retained } where
  apart := sound.apart
  stored := sound.stored
  copied := sound.copied
  copyOwned := sound.copyOwned
  owned now := sound.owned (runs now)
  uncopied now := sound.uncopied (runs now)
  accounted either := sound.accounted (either.imp runs done)
  completed now := sound.completed (done now)
  once now ended := sound.once (runs now) (done ended)
  buried time now := sound.buried time (kept time now)

theorem Sound.succeed (sound : slot.Sound) (idle : ¬ slot.operating)
    (accounted : slot.row.isSome ∨ slot.tombstone.isSome)
    (completed : forall job, slot.job = some job -> job.status = .completed) :
    Sound { slot with succeeded := True } where
  apart := sound.apart
  stored := sound.stored
  copied := sound.copied
  copyOwned := sound.copyOwned
  owned := sound.owned
  uncopied := sound.uncopied
  accounted _ := accounted
  completed _ := completed
  once operating := absurd operating idle
  buried := sound.buried

theorem Sound.forget (sound : slot.Sound) : Sound { slot with job := none, pending := none } where
  apart := sound.apart
  stored _ found := nomatch found
  copied _ waiting := nomatch waiting
  copyOwned _ waiting := nomatch waiting
  owned _ _ found := nomatch found
  uncopied _ := rfl
  accounted := sound.accounted
  completed _ _ found := nomatch found
  once := sound.once
  buried := sound.buried

theorem Sound.bury (sound : slot.Sound) (id : String) (removedAt : Int) (clear : slot.tombstone = none) :
    Sound { slot with
      row := none
      tombstone := some ⟨id, some removedAt⟩
      job := none
      pending := none
      retained := fun time => time = removedAt ∨ slot.retained time } where
  apart stands := nomatch stands
  stored _ found := nomatch found
  copied _ waiting := nomatch waiting
  copyOwned _ waiting := nomatch waiting
  owned _ _ found := nomatch found
  uncopied _ := rfl
  accounted _ := Or.inr rfl
  completed _ _ found := nomatch found
  once := sound.once
  buried time retained := by
    rcases retained with rfl | earlier
    · exact ⟨_, rfl, rfl⟩
    · rcases sound.buried time earlier with ⟨tombstone, found, -⟩
      cases clear.symm.trans found

end Slot

end Transfers
end TelegramDrive
