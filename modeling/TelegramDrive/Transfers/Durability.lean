import TelegramDrive.Transfers.SingleExecution

namespace TelegramDrive
namespace Transfers

/-!
# What the transfer database keeps

No step lowers the revision of a row.  In the runs that enqueue no job over a
forgotten row, a removed id does not come back within its retention, an ended and
saved job has its status in its row, and a start that gets through has in memory
what it has in the database.
-/

open Slot

variable {queue next : TransferQueue} {engine : TransferEngine} {system : FileSystem}

/-! ## Revisions never decrease -/

/-- A row that stays keeps its revision or takes a later one. -/
def KeepsRevisions (store next : TransferStore) : Prop :=
  forall id row later, store.rows.find? id = some row -> next.rows.find? id = some later ->
    row.revision ≤ later.revision

theorem RowsGrow.keeps {store next : TransferStore} (grows : RowsGrow store next) :
    KeepsRevisions store next := by
  intro id row later found listed
  rcases grows id row found with ⟨other, there, order⟩
  cases there.symm.trans listed
  exact order

theorem KeepsRevisions.refl (store : TransferStore) : KeepsRevisions store store :=
  (RowsGrow.refl store).keeps

variable {seconds now : Int}

theorem Deleted.keeps {store next : TransferStore} {ids : List String}
    (deleted : Deleted store next ids seconds) : KeepsRevisions store next := by
  intro id row later found listed
  rw [deleted.rows] at listed
  split at listed
  · cases listed
  · cases found.symm.trans listed
    exact Nat.le_refl _

theorem StartedFrom.keeps {store next : TransferStore}
    (started : StartedFrom store next seconds) : KeepsRevisions store next := by
  intro id row later found listed
  rcases started.rows id later listed with ⟨other, stood, order⟩
  cases found.symm.trans stood
  exact order

theorem retryCommit_grows (unsaved : List String) (engine : TransferEngine) (job : TransferJob) :
    RowsGrow engine.store (TransferEngine.retryCommit unsaved engine job).store := by
  unfold TransferEngine.retryCommit
  simp only
  split
  · exact .refl engine.store
  next next done => exact (commitJobs_ok done).store.grows

theorem retryCommits_grows (engine : TransferEngine) (unsaved : List String) :
    RowsGrow engine.store (engine.retryCommits unsaved).store := by
  unfold TransferEngine.retryCommits
  generalize engine.pendingCommits.items = waiting
  induction waiting generalizing engine with
  | nil => exact .refl engine.store
  | cons job waiting ih =>
    exact (retryCommit_grows unsaved engine job).trans (ih _)

theorem startSelected_grows (engine : TransferEngine) (chosen : List TransferJob)
    (pass : TransferEngine.SchedulePass) :
    RowsGrow engine.store (engine.startSelected chosen pass).1.store := by
  unfold TransferEngine.startSelected
  split
  · exact .refl engine.store
  · split
    · exact .refl engine.store
    next next done => exact (commitJobs_ok done).store.grows

theorem scheduleOnce_grows (engine : TransferEngine) (pass : TransferEngine.SchedulePass) :
    RowsGrow engine.store (engine.scheduleOnce pass).1.store := by
  have first := retryCommits_grows engine pass.unsaved
  unfold TransferEngine.scheduleOnce
  simp only
  split
  · exact first
  · split
    · exact first
    · split
      · exact first
      · exact first.trans (startSelected_grows _ _ pass)

theorem finish_grows (engine : TransferEngine) (id : String) (result : Except String TransferResponse)
    (now : Int) (failure : Option String) :
    RowsGrow engine.store (engine.finish system id result now failure).store := by
  unfold TransferEngine.finish
  simp only
  split
  · exact .refl engine.store
  · unfold TransferEngine.commitResult
    simp only
    split
    · exact .refl engine.store
    next next done => exact (commitJobs_ok done).store.grows

theorem recordProgress_grows (engine : TransferEngine) (update : TransferEngine.ProgressUpdate)
    (checkpointDue : Bool) (failure : Option String) :
    RowsGrow engine.store (engine.recordProgress update checkpointDue failure).store := by
  unfold TransferEngine.recordProgress
  split
  · exact .refl engine.store
  · split
    · exact .refl engine.store
    · split
      · exact .refl engine.store
      · simp only
        split
        · split
          · exact .refl engine.store
          next store saved => exact (upsert_ok saved).grows
        · exact .refl engine.store

variable {session : SessionReading} {failure : Option String} {later : TransferEngine}

theorem enqueueMany_grows {requests : List TransferEnqueueRequest} {disk : Disk}
    (done : engine.enqueueMany system requests session disk now failure = .ok later) :
    RowsGrow engine.store later.store := by
  unfold TransferEngine.enqueueMany at done
  rcases Results.bind_ok done with ⟨_, -, checked⟩
  rcases Results.bind_ok checked with ⟨_, -, built⟩
  rcases Results.bind_ok built with ⟨_, -, named⟩
  rcases Results.bind_ok named with ⟨_, -, validated⟩
  rcases Results.bind_ok validated with ⟨_, -, committed⟩
  exact (commitJobs_ok committed).store.grows

theorem transition_grows {id : String} {action : TransferAction} {expected : Option String} {asked : Bool}
    (done : engine.transition id action session expected now failure = .ok (later, asked)) :
    RowsGrow engine.store later.store := by
  unfold TransferEngine.transition at done
  rcases Results.bind_ok done with ⟨owner, -, rest⟩
  split at rest
  · cases rest
  · split at rest
    · cases rest
    · split at rest
      · rcases Results.bind_ok rest with ⟨_, -, saved⟩
        rcases Results.bind_ok saved with ⟨next, committed, final⟩
        cases final
        exact (commitJobs_ok committed).store.grows
      · split at rest
        · cases rest
          exact .refl engine.store
        · rcases Results.bind_ok rest with ⟨_, -, saved⟩
          rcases Results.bind_ok saved with ⟨next, committed, final⟩
          cases final
          exact (commitJobs_ok committed).store.grows

theorem adoptAll_grows {owner : String} {ids : List String} {confirmed : Bool}
    (done : engine.adoptAll owner ids confirmed session now failure = .ok later) :
    RowsGrow engine.store later.store := by
  unfold TransferEngine.adoptAll at done
  rw [if_neg fun unconfirmed => by
    rw [if_pos unconfirmed] at done
    cases done] at done
  rcases Results.bind_ok done with ⟨_, -, reviewed⟩
  rcases Results.bind_ok reviewed with ⟨_, -, validated⟩
  rcases Results.bind_ok validated with ⟨_, -, committed⟩
  exact (commitJobs_ok committed).store.grows

theorem withdraw_keeps (engine : TransferEngine) (id : String) (seconds : Int) (failure : Option String) :
    KeepsRevisions engine.store (engine.withdraw id seconds failure).1.store := by
  unfold TransferEngine.withdraw
  simp only
  split
  · exact .refl engine.store
  · split
    · exact .refl engine.store
    next store gone => exact (deleteMany_ok gone).keeps

theorem clearTerminal_keeps {direction : TransferDirection} {includeFailedAndCancelled : Bool}
    {expected : Option String}
    (done : engine.clearTerminal direction includeFailedAndCancelled session expected seconds failure =
      .ok later) : KeepsRevisions engine.store later.store := by
  unfold TransferEngine.clearTerminal at done
  rcases Results.bind_ok done with ⟨_, -, validated⟩
  rcases Results.bind_ok validated with ⟨_, -, removed⟩
  rcases Results.bind_ok removed with ⟨store, gone, final⟩
  cases final
  exact (deleteMany_ok gone).keeps

theorem discardLegacy_keeps {owner : String} {ids : List String}
    (done : engine.discardLegacy owner ids session seconds failure = .ok later) :
    KeepsRevisions engine.store later.store := by
  unfold TransferEngine.discardLegacy at done
  rcases Results.bind_ok done with ⟨_, -, checked⟩
  split at checked
  · cases checked
  · rcases Results.bind_ok checked with ⟨_, -, removed⟩
    rcases Results.bind_ok removed with ⟨store, gone, final⟩
    cases final
    exact (deleteMany_ok gone).keeps

/-- No step of the queue lowers the revision of a row, whatever fails. -/
theorem step_keepsRevisions {event : QueueEvent}
    (moved : (TransferQueue.transferMachine system).step queue event = some next) :
    KeepsRevisions queue.engine.store next.engine.store := by
  simp only [TransferQueue.transferMachine] at moved
  split at moved
  · cases event with
    | start now seconds stops => cases moved
    | stop | setLimits maxUploads maxDownloads =>
      cases moved
      exact .refl queue.engine.store
    | schedule pass =>
      cases moved
      exact (scheduleOnce_grows queue.engine pass).keeps
    | finish id result now failure =>
      simp only [TransferQueue.act] at moved
      split at moved
      · cases moved
        exact (finish_grows queue.engine id result now failure).keeps
      · cases moved
    | progress update checkpointDue failure =>
      cases moved
      exact (recordProgress_grows queue.engine update checkpointDue failure).keeps
    | enqueue requests session disk now failure =>
      cases moved
      unfold TransferQueue.adopt
      split
      · exact .refl queue.engine.store
      next done => exact (enqueueMany_grows done).keeps
    | transition id action session expected now failure =>
      cases moved
      unfold TransferQueue.transition
      split
      · exact .refl queue.engine.store
      next done => exact (transition_grows done).keeps
    | withdraw id seconds failure =>
      cases moved
      exact withdraw_keeps queue.engine id seconds failure
    | clearTerminal direction includeFailedAndCancelled session expected seconds failure =>
      cases moved
      unfold TransferQueue.removeIf
      split
      · exact .refl queue.engine.store
      next done => exact clearTerminal_keeps done
    | adopt owner ids confirmed session now failure =>
      cases moved
      unfold TransferQueue.adopt
      split
      · exact .refl queue.engine.store
      next done => exact (adoptAll_grows done).keeps
    | discard owner ids session seconds failure =>
      cases moved
      unfold TransferQueue.removeIf
      split
      · exact .refl queue.engine.store
      next done => exact discardLegacy_keeps done
  · split at moved
    next now seconds stops =>
      cases moved
      have part := openStore_from queue.engine.store now seconds stops
      unfold TransferQueue.start
      simp only
      split
      next opened =>
        rw [opened] at part
        exact part.keeps
      next opened =>
        rw [opened] at part
        exact part.keeps
    · cases moved

/-! ## After a start -/

/-- The queue after a start that got through. -/
structure Restarted (before after : TransferQueue) : Prop where
  idle : forall job, job ∈ after.engine.jobs.items -> job.status.isActive = false
  unsupervised : forall job, job ∈ after.engine.jobs.items -> job.origin = none
  unowned : forall job, job ∈ after.engine.jobs.items -> job.ownerId = none ->
    job.status.isTerminal = true ∨ job.status = .paused
  loaded : forall row, row ∈ before.engine.store.rows.items -> row.origin = none ->
    after.engine.jobs.items.countP (fun job => decide (job.id = row.id)) = 1
  known : forall job, job ∈ after.engine.jobs.items -> Exists fun row =>
    row ∈ before.engine.store.rows.items ∧ row.origin = none ∧ row.id = job.id
  stored : forall job, job ∈ after.engine.jobs.items -> after.engine.store.rows.find? job.id = some job

theorem recoverAfterRestart_idle (job : TransferJob) (now : Int) :
    (recoverAfterRestart job now).status.isActive = false ∧
      ((recoverAfterRestart job now).ownerId = none ->
        (recoverAfterRestart job now).status.isTerminal = true ∨
          (recoverAfterRestart job now).status = .paused) := by
  unfold recoverAfterRestart
  split
  · exact ⟨rfl, fun _ => Or.inr rfl⟩
  next steady =>
    unfold TransferJob.interrupted at steady
    simp only [Bool.or_eq_true, Bool.and_eq_true, Bool.not_eq_true', decide_eq_true_eq, not_or,
      Bool.not_eq_true] at steady
    refine ⟨steady.1, ?_⟩
    intro unowned
    by_cases ended : job.status.isTerminal = true
    · exact Or.inl ended
    · apply Or.inr
      by_contra waiting
      apply steady.2
      rw [unowned]
      exact ⟨⟨rfl, Bool.eq_false_iff.mpr ended⟩, waiting⟩

/-- A start that gets through has in memory every row without a supervisor, once,
and nothing that runs. -/
theorem start_restarted (queue : TransferQueue) (now seconds : Int) (stops : Option Nat)
    (running : (queue.start now seconds stops).running = true) :
    Restarted queue (queue.start now seconds stops) := by
  unfold TransferQueue.start at running ⊢
  split at running
  next store jobs opened =>
    have rows := openStore_rows (congrArg Prod.snd opened)
    rw [opened] at rows
    rcases rows with ⟨rfl, saved⟩
    simp only
    have source : forall job, job ∈ (TransferEngine.opened store
        (queue.engine.store.startJobs now)).jobs.items -> Exists fun row =>
        row ∈ queue.engine.store.loadAll ∧ row.origin = none ∧ recoverAfterRestart row now = job := by
      intro job member
      rcases opened_find?.mp (Table.find?_of_mem member) with ⟨row, loaded, mine, -, same⟩
      exact ⟨row, loaded, mine, same⟩
    constructor
    · intro job member
      rcases source job member with ⟨row, -, -, rfl⟩
      exact (recoverAfterRestart_idle row now).1
    · intro job member
      rcases source job member with ⟨row, -, mine, rfl⟩
      exact (recoverAfterRestart_same row now).2.1.trans mine
    · intro job member
      rcases source job member with ⟨row, -, -, rfl⟩
      exact (recoverAfterRestart_idle row now).2
    · intro row member mine
      have found : (TransferEngine.opened store (queue.engine.store.startJobs now)).jobs.find? row.id =
          some (recoverAfterRestart row now) :=
        opened_find?.mpr ⟨row, mem_loadAll.mpr (Table.find?_of_mem member), mine, rfl, rfl⟩
      have listed := (Table.find?_eq_some.mp found).1
      have counted := Table.countP_key _ listed
      rw [(recoverAfterRestart_same row now).1] at counted
      exact counted
    · intro job member
      rcases source job member with ⟨row, loaded, mine, rfl⟩
      have stood := Table.find?_eq_some.mp (mem_loadAll.mp loaded)
      exact ⟨row, stood.1, mine, (recoverAfterRestart_same row now).1.symm⟩
    · intro job member
      rcases source job member with ⟨row, loaded, mine, rfl⟩
      rw [(recoverAfterRestart_same row now).1]
      exact saved row loaded mine
  · cases running

/-! ## The database over whole runs -/

/-- What the database and the memory have in every state. -/
structure KeepsRecords (queue : TransferQueue) : Prop where
  removed : forall id time, (id, time) ∈ queue.retained ->
    queue.engine.store.rows.find? id = none ∧ queue.engine.jobs.find? id = none
  ended : forall job, job ∈ queue.engine.jobs.items -> job.persistencePending = false ->
    job.status.isTerminal = true -> Exists fun row =>
      queue.engine.store.rows.find? job.id = some row ∧ row.status = job.status

theorem keepsRecords_of_sound (sound : queue.Sound) : KeepsRecords queue where
  removed id time retained := by
    rcases (sound id).buried time retained with ⟨tombstone, found, -⟩
    constructor
    · apply Option.eq_none_iff_forall_ne_some.mpr
      intro row stands
      have clear := (sound id).apart (Option.isSome_iff_exists.mpr ⟨row, stands⟩)
      cases clear.symm.trans found
    · apply Option.eq_none_iff_forall_ne_some.mpr
      intro job listed
      cases ((sound id).unburied listed).symm.trans found
  ended job member saved terminal := by
    rcases (sound job.id).stored job (Table.find?_of_mem member) with ⟨row, stands, rowOf⟩
    exact ⟨row, stands, rowOf.status saved terminal⟩

/-- In every run that enqueues no job over a row that a failed deletion left, no
step lowers a revision, a deleted id has neither a row nor a job within its
retention, an ended and saved job has its status in its row, and a start has
every other job in memory once, none of them running. -/
theorem transfer_store_never_regresses {store : TransferStore} {events : List QueueEvent}
    (apart : store.Apart) (run : FreshRun system store events queue) :
    KeepsRecords queue ∧
      (forall event next, queue.enqueuesFresh event = true ->
        (TransferQueue.transferMachine system).step queue event = some next ->
        KeepsRevisions queue.engine.store next.engine.store) ∧
      forall now seconds stops next,
        (TransferQueue.transferMachine system).step queue (.start now seconds stops) = some next ->
        next.running = true -> Restarted queue next := by
  refine ⟨keepsRecords_of_sound (run.ordered apart).sound, ?_, ?_⟩
  · intro event next _ moved
    exact step_keepsRevisions moved
  · intro now seconds stops next moved running
    simp only [TransferQueue.transferMachine] at moved
    split at moved
    · cases moved
    · cases moved
      exact start_restarted queue now seconds stops running

/-! ## A row that a failed deletion left -/

/-- The new job of the forgotten row is cancelled, and the row still says that the
transfer is completed. -/
theorem forgotten_row_keeps_old_status :
    Exists fun queue => Exists fun job =>
      (TransferQueue.transferMachine sampleSystem).replay (.offline .empty)
        (forgottenRow ++ [.transition "s" .cancel ⟨some "1", true⟩ none 0 none]) = some queue ∧
      job ∈ queue.engine.jobs.items ∧ job.persistencePending = false ∧ job.status = .cancelled ∧
      (queue.engine.store.rows.find? job.id).map (·.status) = some .completed := by
  have shape : Exists fun queue => (TransferQueue.transferMachine sampleSystem).replay (.offline .empty)
      (forgottenRow ++ [.transition "s" .cancel ⟨some "1", true⟩ none 0 none]) = some queue ∧ Exists fun job =>
        job ∈ queue.engine.jobs.items ∧ job.persistencePending = false ∧ job.status = .cancelled ∧
          (queue.engine.store.rows.find? job.id).map (·.status) = some .completed := by
    decide +kernel
  rcases shape with ⟨queue, replayed, job, facts⟩
  exact ⟨queue, job, replayed, facts⟩

/-- A running upload and a supervised one meet the end of the process. -/
theorem stopped_uploads_restart :
    Exists fun queue => Exists fun next =>
      ((TransferQueue.transferMachine sampleSystem).guarded
        (fun queue event => queue.enqueuesFresh event)).replay (.offline .empty)
          [.start 0 0 none, .enqueue [sampleUpload "s", { sampleUpload "a" with origin := none }]
            ⟨some "1", true⟩ [] 0 none, .schedule (samplePass []), .stop] = some queue ∧
      (TransferQueue.transferMachine sampleSystem).step queue (.start 9 9 none) = some next ∧
      KeepsRecords queue ∧ KeepsRevisions queue.engine.store next.engine.store ∧ Restarted queue next := by
  have shape : Exists fun queue => ((TransferQueue.transferMachine sampleSystem).guarded
      (fun queue event => queue.enqueuesFresh event)).replay (.offline .empty)
        [.start 0 0 none, .enqueue [sampleUpload "s", { sampleUpload "a" with origin := none }]
          ⟨some "1", true⟩ [] 0 none, .schedule (samplePass []), .stop] = some queue ∧ Exists fun next =>
      (TransferQueue.transferMachine sampleSystem).step queue (.start 9 9 none) = some next ∧ next.running = true := by
    decide +kernel
  rcases shape with ⟨queue, replayed, next, moved, running⟩
  have kept := transfer_store_never_regresses TransferStore.empty_apart
    (Machine.run_of_guarded_replay replayed)
  exact ⟨queue, next, replayed, moved, kept.1, kept.2.1 _ next rfl moved, kept.2.2 9 9 none next moved running⟩

end Transfers
end TelegramDrive
