import TelegramDrive.Transfers.Scheduling

namespace TelegramDrive
namespace Transfers

/-!
# Running operations: progress and ending

Progress changes the job in memory, and its row now and then.  The end of an
operation removes it from what is running before its result is recorded, and the
result waits for another commit when this one fails.
-/

open Slot

variable {queue : TransferQueue} {system : FileSystem}

/-! ## The end of an operation -/

theorem eraseP_eq_filter {operations : List TransferJob} (distinct : (operations.map (·.id)).Nodup)
    (id : String) : operations.eraseP (fun job => decide (job.id = id)) =
      operations.filter fun job => decide (job.id ≠ id) := by
  induction operations with
  | nil => rfl
  | cons job operations ih =>
    rw [List.map_cons, List.nodup_cons] at distinct
    by_cases same : job.id = id
    · have kept : operations.filter (fun job => decide (job.id ≠ id)) = operations := by
        apply List.filter_eq_self.mpr
        intro other member
        apply decide_eq_true
        intro equal
        exact distinct.1 (List.mem_map.mpr ⟨other, member, equal.trans same.symm⟩)
      simpa [same] using kept.symm
    · simp [same, ih distinct.2]

/-- The queue without an operation that has returned. -/
def TransferQueue.returned (queue : TransferQueue) (id : String) : TransferQueue :=
  { queue with
    engine := { queue.engine with active := queue.engine.active.erase id }
    operations := queue.operations.eraseP fun job => decide (job.id = id) }

theorem returned_idle (operating : queue.Operating) (id : String) :
    id ∉ (queue.returned id).operations.map (·.id) := by
  intro listed
  change id ∈ (queue.operations.eraseP _).map _ at listed
  rw [eraseP_eq_filter operating.distinct] at listed
  rcases List.mem_map.mp listed with ⟨job, member, same⟩
  exact of_decide_eq_true (List.mem_filter.mp member).2 same

theorem returned_sound (sound : queue.Sound) (id : String) : (queue.returned id).Sound := by
  intro other
  apply (sound other).weaken
  · intro runs
    rcases List.mem_map.mp runs with ⟨job, member, same⟩
    exact List.mem_map.mpr ⟨job, List.mem_of_mem_eraseP member, same⟩
  · exact fun now => now
  · exact fun _ now => now

theorem returned_operating (operating : queue.Operating) (id : String) : (queue.returned id).Operating := by
  constructor
  · change ((queue.operations.eraseP _).map _).Perm (queue.engine.active.erase id).items
    rw [eraseP_eq_filter operating.distinct]
    have kept := operating.matched.filter fun entry => decide (entry.1 ≠ id)
    rw [List.filter_map] at kept
    exact kept
  · intro direction
    have fewer : (queue.returned id).operations.countP (TransferJob.goes direction) ≤
        queue.operations.countP (TransferJob.goes direction) :=
      List.Sublist.countP_le List.eraseP_sublist
    exact fewer.trans (operating.within direction)

theorem commitResult_sound (sound : queue.Sound) (current result : TransferJob) (failure : Option String)
    (found : queue.engine.jobs.find? result.id = some current) (later : current.revision ≤ result.revision)
    (owner : result.ownerId.isSome) (idle : result.id ∉ queue.operations.map (·.id))
    (unfinished : result.id ∉ queue.succeeded) :
    TransferQueue.Sound { queue with engine := queue.engine.commitResult result failure } := by
  unfold TransferEngine.commitResult
  simp only
  split
  next error failed =>
    intro id
    by_cases same : id = result.id
    · subst same
      have slotted : ({ queue with engine := { queue.engine with
          pendingCommits := queue.engine.pendingCommits.insert { result with persistencePending := false }
          jobs := queue.engine.jobs.insert (TransferEngine.unsavedResult
            { result with persistencePending := false } error) } } : TransferQueue).slot result.id =
          { queue.slot result.id with
            job := some (TransferEngine.unsavedResult { result with persistencePending := false } error)
            pending := some { result with persistencePending := false } } := by
        simp only [TransferQueue.slot, Table.find?_insert, TransferEngine.unsavedResult, if_true]
      rw [slotted]
      exact (sound result.id).unsaved found ⟨rfl, rfl, rfl, rfl⟩ later owner idle
        fun succeeded => absurd succeeded unfinished
    · have slotted : ({ queue with engine := { queue.engine with
          pendingCommits := queue.engine.pendingCommits.insert { result with persistencePending := false }
          jobs := queue.engine.jobs.insert (TransferEngine.unsavedResult
            { result with persistencePending := false } error) } } : TransferQueue).slot id =
          queue.slot id := by
        simp only [TransferQueue.slot, Table.find?_insert, TransferEngine.unsavedResult, if_neg same]
      rw [slotted]
      exact sound id
  next next done =>
    apply ((commitJobs_ok done).forgetting result.id).sound (sound_forgetting sound result.id)
      (agree_singleton _)
    intro job member
    cases List.mem_singleton.mp member
    rcases (sound result.id).stored current found with ⟨row, stands, rowOf⟩
    constructor
    · intro other listed
      cases stands.symm.trans listed
      exact rowOf.revision.trans later
    · intro pending listed
      change (queue.engine.pendingCommits.erase result.id).find? result.id = some pending at listed
      rw [Table.find?_erase, if_pos rfl] at listed
      cases listed
    · exact fun _ => owner
    · exact fun succeeded => absurd succeeded unfinished

theorem commitResult_job (engine : TransferEngine) (result : TransferJob) (failure : Option String) :
    Exists fun job => (engine.commitResult result failure).jobs.find? result.id = some job ∧
      job.status = result.status := by
  unfold TransferEngine.commitResult
  simp only
  split
  next error failed =>
    exact ⟨TransferEngine.unsavedResult { result with persistencePending := false } error,
      by rw [Table.find?_insert]; exact if_pos rfl, rfl⟩
  next next done =>
    exact ⟨{ result with persistencePending := false },
      (commitJobs_ok done).visible (agree_singleton _) _ List.mem_cons_self, rfl⟩

theorem commitResult_active (engine : TransferEngine) (result : TransferJob) (failure : Option String) :
    (engine.commitResult result failure).active = engine.active ∧
      forall direction, (engine.commitResult result failure).limit direction = engine.limit direction := by
  unfold TransferEngine.commitResult
  simp only
  split
  · exact ⟨rfl, fun direction => by cases direction <;> rfl⟩
  next next done =>
    have committed := commitJobs_ok done
    exact ⟨committed.active, fun direction => by
      cases direction with
      | upload => exact committed.limit .upload
      | download => exact committed.limit .download⟩

theorem endedJob_same (system : FileSystem) (job : TransferJob) (result : Except String TransferResponse) (now : Int) :
    (TransferEngine.endedJob system job result now).id = job.id ∧
      (TransferEngine.endedJob system job result now).ownerId = job.ownerId ∧
      (TransferEngine.endedJob system job result now).revision = nextRevision job.revision := by
  unfold TransferEngine.endedJob
  cases result with
  | ok response =>
    have same := (succeed_same job response).1
    exact ⟨same.id, same.ownerId, congrArg nextRevision same.revision⟩
  | error error =>
    have same := fail_same system job error now
    exact ⟨same.id, same.ownerId, congrArg nextRevision same.revision⟩

theorem endedJob_completed (system : FileSystem) (job : TransferJob)
    (result : Except String TransferResponse) (now : Int) (succeeded : result.isOk = true) :
    (TransferEngine.endedJob system job result now).status = .completed := by
  cases result with
  | ok response => exact (succeed_same job response).2
  | error error => cases succeeded

/-- The engine after an operation, in a queue that does not yet note a success. -/
structure Recorded (queue : TransferQueue) (next : TransferEngine) (id : String) (succeeded : Bool) : Prop where
  sound : TransferQueue.Sound { queue.returned id with engine := next }
  completed : succeeded = true -> forall job, next.jobs.find? id = some job -> job.status = .completed
  accounted : (next.store.rows.find? id).isSome = true ∨ (next.store.tombstones.find? id).isSome = true

theorem finish_recorded (system : FileSystem) (sound : queue.Sound) (operating : queue.Operating) {id : String}
    (runs : id ∈ queue.operations.map (·.id)) (result : Except String TransferResponse) (now : Int)
    (failure : Option String) :
    Recorded queue (queue.engine.finish system id result now failure) id result.isOk := by
  have returned := returned_sound sound id
  unfold TransferEngine.finish
  simp only
  split
  next absent =>
    refine ⟨returned, ?_, (sound id).accounted (Or.inl runs)⟩
    intro _ job listed
    cases absent.symm.trans listed
  next current found =>
    have itsId := Table.key_of_find? found
    subst itsId
    rcases endedJob_same system current result now with ⟨sameId, owner, revision⟩
    have completes := endedJob_completed system current result now
    generalize TransferEngine.endedJob system current result now = ended at sameId owner revision completes ⊢
    have later := commitResult_sound returned current ended failure
      (sameId ▸ found) (revision ▸ le_nextRevision current.revision)
      (owner ▸ (sound current.id).owned runs current found)
      (sameId ▸ returned_idle operating current.id) (sameId ▸ (sound current.id).once runs)
    rcases commitResult_job (queue.returned current.id).engine ended failure with
      ⟨job, listed, status⟩
    rw [sameId] at listed
    constructor
    · exact later
    · intro succeeded other other_listed
      cases listed.symm.trans other_listed
      exact status.trans (completes succeeded)
    · rcases (later current.id).stored job listed with ⟨row, stands, -⟩
      exact Or.inl (Option.isSome_iff_exists.mpr ⟨row, stands⟩)

theorem finish_sound (sound : queue.Sound) (operating : queue.Operating) {id : String}
    (runs : id ∈ queue.operations.map (·.id)) (result : Except String TransferResponse) (now : Int)
    (failure : Option String) : (queue.finish system id result now failure).Sound := by
  have recorded := finish_recorded system sound operating runs result now failure
  unfold TransferQueue.finish
  split
  next succeeded =>
    intro other
    by_cases same : other = id
    · subst same
      have noted := (recorded.sound other).succeed (returned_idle operating other) recorded.accounted
        (recorded.completed succeeded)
      exact noted.weaken (fun now => now) (fun _ => trivial) (fun _ now => now)
    · apply (recorded.sound other).weaken
      · exact fun now => now
      · exact fun now => (List.mem_cons.mp now).resolve_left same
      · exact fun _ now => now
  · exact recorded.sound

theorem finish_operating (operating : queue.Operating) (id : String)
    (result : Except String TransferResponse) (now : Int) (failure : Option String) :
    (queue.finish system id result now failure).Operating := by
  have returned := returned_operating operating id
  have active : (queue.engine.finish system id result now failure).active = queue.engine.active.erase id := by
    unfold TransferEngine.finish
    simp only
    split
    · rfl
    · exact (commitResult_active _ _ failure).1
  constructor
  · change ((queue.returned id).operations.map _).Perm
      (queue.engine.finish system id result now failure).active.items
    rw [active]
    exact returned.matched
  · exact returned.within

/-! ## Progress -/

theorem checkpoint_sound (sound : queue.Sound) (job : TransferJob) {store : TransferStore}
    (found : queue.engine.jobs.find? job.id = some job)
    (waits : queue.engine.pendingCommits.find? job.id = none)
    (upserted : Upserted queue.engine.store store job) :
    TransferQueue.Sound { queue with engine := { queue.engine with store := store } } := by
  rcases (sound job.id).stored job found with ⟨row, stands, rowOf⟩
  have written := upserted.written (by
    intro other listed
    cases stands.symm.trans listed
    exact rowOf.revision)
  intro id
  by_cases same : id = job.id
  · subst same
    have slotted : ({ queue with engine := { queue.engine with store := store } } : TransferQueue).slot job.id =
        { queue.slot job.id with row := some job, job := some job } := by
      simp only [TransferQueue.slot, written, upserted.tombstones, found]
    rw [slotted]
    apply (sound job.id).commit upserted.unburied
    · intro pending listed
      cases waits.symm.trans listed
    · exact fun runs => (sound job.id).owned runs job found
    · exact fun succeeded => (sound job.id).completed succeeded job found
  · have slotted : ({ queue with engine := { queue.engine with store := store } } : TransferQueue).slot id =
        queue.slot id := by
      simp only [TransferQueue.slot, upserted.others id fun equal => same equal.symm, upserted.tombstones]
    rw [slotted]
    exact sound id

/-- Progress changes a running job in memory, and its row if a checkpoint is due. -/
theorem recordProgress_sound (sound : queue.Sound) (operating : queue.Operating)
    (update : TransferEngine.ProgressUpdate) (checkpointDue : Bool) (failure : Option String) :
    TransferQueue.Sound { queue with
      engine := queue.engine.recordProgress update checkpointDue failure } := by
  unfold TransferEngine.recordProgress
  split
  · exact sound
  next listed =>
    have runs : update.id ∈ queue.operations.map (·.id) := by
      apply (operating.active_isSome update.id).mp
      cases entry : queue.engine.active.find? update.id with
      | none =>
        rw [entry] at listed
        exact absurd rfl listed
      | some entry => rfl
    split
    · exact sound
    next job found =>
      have itsId := Table.key_of_find? found
      rw [← itsId] at found runs
      split
      · exact sound
      next active =>
        have unfinished : job.status ≠ .completed := by
          intro completed
          rw [completed] at active
          exact active rfl
        have waits := (sound job.id).uncopied runs
        have unended : (update.record job).status.isTerminal = false := by
          change update.phase.status.isTerminal = false
          cases update.phase with
          | uploading | downloading => rfl
        have touched := insert_sound sound (update.record job) found
          (le_nextRevision job.revision) unended waits rfl unfinished
        simp only
        split
        · split
          · exact touched
          next store saved =>
            refine checkpoint_sound touched (update.record job) ?_ waits (upsert_ok saved)
            exact (Table.find?_insert _ _ _).trans (if_pos rfl)
        · exact touched

end Transfers
end TelegramDrive
