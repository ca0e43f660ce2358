import TelegramDrive.Library.Results
import TelegramDrive.Transfers.Commits

namespace TelegramDrive
namespace Transfers

/-!
# What runs

In every run, whatever is enqueued over a forgotten row, the engine's map of the
running operations agrees with what runs: only the scheduler adds to it, and only
the end of an operation takes from it.
-/

variable {queue : TransferQueue} {engine later : TransferEngine} {system : FileSystem}

/-! ## Steps that leave the running operations alone -/

/-- Neither the running operations nor the limits have changed. -/
structure Idles (engine next : TransferEngine) : Prop where
  active : next.active = engine.active
  limit : forall direction, next.limit direction = engine.limit direction

theorem Idles.refl (engine : TransferEngine) : Idles engine engine := ⟨rfl, fun _ => rfl⟩

theorem Idles.trans {middle : TransferEngine} (first : Idles engine middle) (second : Idles middle later) :
    Idles engine later :=
  ⟨second.active.trans first.active, fun direction => (second.limit direction).trans (first.limit direction)⟩

theorem retryCommit_idles (unsaved : List String) (engine : TransferEngine) (job : TransferJob) :
    Idles engine (TransferEngine.retryCommit unsaved engine job) := by
  unfold TransferEngine.retryCommit
  simp only
  split
  · exact .refl engine
  next next done =>
    have committed := commitJobs_ok done
    constructor
    · exact committed.active
    · intro direction
      cases direction with
      | upload => exact committed.limit .upload
      | download => exact committed.limit .download

theorem retryCommits_idles (engine : TransferEngine) (unsaved : List String) :
    Idles engine (engine.retryCommits unsaved) := by
  unfold TransferEngine.retryCommits
  generalize engine.pendingCommits.items = waiting
  induction waiting generalizing engine with
  | nil => exact .refl engine
  | cons job waiting ih =>
    exact (retryCommit_idles unsaved engine job).trans (ih _)

theorem recordProgress_active (engine : TransferEngine) (update : TransferEngine.ProgressUpdate)
    (checkpointDue : Bool) (failure : Option String) :
    (engine.recordProgress update checkpointDue failure).active = engine.active := by
  unfold TransferEngine.recordProgress
  split
  · rfl
  · split
    · rfl
    · split
      · rfl
      · simp only
        split
        · split
          · rfl
          · rfl
        · rfl

variable {session : SessionReading} {failure : Option String}

theorem enqueueMany_active {requests : List TransferEnqueueRequest} {disk : Disk} {now : Int}
    (done : engine.enqueueMany system requests session disk now failure = .ok later) :
    later.active = engine.active := by
  unfold TransferEngine.enqueueMany at done
  rcases Results.bind_ok done with ⟨owner, -, checked⟩
  rcases Results.bind_ok checked with ⟨-, -, built⟩
  rcases Results.bind_ok built with ⟨⟨changed, created⟩, -, named⟩
  rcases Results.bind_ok named with ⟨final, -, validated⟩
  rcases Results.bind_ok validated with ⟨-, -, committed⟩
  exact (commitJobs_ok committed).active

theorem transition_active {id : String} {action : TransferAction}
    {expected : Option String} {now : Int} {asked : Bool}
    (done : engine.transition id action session expected now failure = .ok (later, asked)) :
    later.active = engine.active := by
  unfold TransferEngine.transition at done
  rcases Results.bind_ok done with ⟨owner, -, rest⟩
  split at rest
  · cases rest
  · split at rest
    · cases rest
    · split at rest
      · rcases Results.bind_ok rest with ⟨-, -, saved⟩
        rcases Results.bind_ok saved with ⟨middle, committed, final⟩
        cases final
        exact (commitJobs_ok committed).active
      · split at rest
        · cases rest
          rfl
        · rcases Results.bind_ok rest with ⟨-, -, saved⟩
          rcases Results.bind_ok saved with ⟨middle, committed, final⟩
          cases final
          exact (commitJobs_ok committed).active

theorem withdraw_active (engine : TransferEngine) (id : String) (seconds : Int) (failure : Option String) :
    (engine.withdraw id seconds failure).1.active = engine.active := by
  unfold TransferEngine.withdraw
  simp only
  split
  · rfl
  · split
    · rfl
    · rfl

theorem clearTerminal_active {direction : TransferDirection} {includeFailedAndCancelled : Bool}
    {expected : Option String} {seconds : Int}
    (done : engine.clearTerminal direction includeFailedAndCancelled session expected seconds failure =
      .ok later) : later.active = engine.active := by
  unfold TransferEngine.clearTerminal at done
  rcases Results.bind_ok done with ⟨owner, -, rest⟩
  rcases Results.bind_ok rest with ⟨-, -, removed⟩
  rcases Results.bind_ok removed with ⟨store, -, final⟩
  cases final
  rfl

theorem adoptAll_active {owner : String} {ids : List String} {confirmed : Bool} {now : Int}
    (done : engine.adoptAll owner ids confirmed session now failure = .ok later) :
    later.active = engine.active := by
  unfold TransferEngine.adoptAll at done
  split at done
  · cases done
  · rcases Results.bind_ok done with ⟨account, -, rest⟩
    rcases Results.bind_ok rest with ⟨updates, -, validated⟩
    rcases Results.bind_ok validated with ⟨-, -, committed⟩
    exact (commitJobs_ok committed).active

theorem discardLegacy_active {owner : String} {ids : List String} {seconds : Int}
    (done : engine.discardLegacy owner ids session seconds failure = .ok later) :
    later.active = engine.active := by
  unfold TransferEngine.discardLegacy at done
  rcases Results.bind_ok done with ⟨account, -, rest⟩
  split at rest
  · cases rest
  · rcases Results.bind_ok rest with ⟨-, -, removed⟩
    rcases Results.bind_ok removed with ⟨store, -, final⟩
    cases final
    rfl

/-! ## The selection of a pass -/

/-- Whether a job goes in a direction. -/
def TransferJob.goes (direction : TransferDirection) (job : TransferJob) : Bool :=
  decide (job.direction = direction)

theorem countP_goes_cons (direction : TransferDirection) (job : TransferJob) (jobs : List TransferJob) :
    (job :: jobs).countP (TransferJob.goes direction) =
      jobs.countP (TransferJob.goes direction) + if job.direction = direction then 1 else 0 := by
  rw [List.countP_cons]
  simp only [TransferJob.goes, decide_eq_true_eq]

/-- The slots that are left bound what is filled, and nothing is reordered. -/
theorem fillSlots_spec (uploadSlots downloadSlots : Nat) (jobs : List TransferJob) {uploads downloads : Nat}
    (uploadsFit : uploads ≤ uploadSlots) (downloadsFit : downloads ≤ downloadSlots) :
    Exists fun filled : List TransferJob => filled.Sublist jobs ∧
      TransferEngine.fillSlots uploadSlots downloadSlots uploads downloads jobs = filled.map (·.id) ∧
      uploads + filled.countP (TransferJob.goes .upload) ≤ uploadSlots ∧
      downloads + filled.countP (TransferJob.goes .download) ≤ downloadSlots := by
  induction jobs generalizing uploads downloads with
  | nil => exact ⟨[], .slnil, rfl, uploadsFit, downloadsFit⟩
  | cons job jobs ih =>
    unfold TransferEngine.fillSlots
    cases direction : job.direction with
    | upload =>
      simp only
      split
      next room =>
        rcases ih (Nat.succ_le_of_lt room) downloadsFit with
          ⟨filled, sublist, same, fits, others⟩
        refine ⟨job :: filled, sublist.cons_cons job, congrArg (List.cons job.id) same, ?_, ?_⟩
        · rw [countP_goes_cons, if_pos direction]
          omega
        · rw [countP_goes_cons, if_neg (by rw [direction]; decide)]
          exact others
      · rcases ih uploadsFit downloadsFit with ⟨filled, sublist, same, fits, others⟩
        exact ⟨filled, sublist.cons job, same, fits, others⟩
    | download =>
      simp only
      split
      next room =>
        rcases ih uploadsFit (Nat.succ_le_of_lt room) with
          ⟨filled, sublist, same, fits, others⟩
        refine ⟨job :: filled, sublist.cons_cons job, congrArg (List.cons job.id) same, ?_, ?_⟩
        · rw [countP_goes_cons, if_neg (by rw [direction]; decide)]
          exact fits
        · rw [countP_goes_cons, if_pos direction]
          omega
      · rcases ih uploadsFit downloadsFit with ⟨filled, sublist, same, fits, others⟩
        exact ⟨filled, sublist.cons job, same, fits, others⟩

theorem eligible_find? {owner id : String} {now : Int} {job : TransferJob} :
    (engine.eligible owner now).find? id = some job ↔
      Exists fun before => engine.jobs.find? id = some before ∧
        TransferEngine.isEligible owner now before = true ∧ job = { before with status := .pending } := by
  unfold TransferEngine.eligible
  rw [Table.find?_filterMap, Option.bind_eq_some_iff]
  constructor
  · rintro ⟨before, found, changed⟩
    split at changed
    next able =>
      cases changed
      exact ⟨before, found, able, rfl⟩
    · cases changed
  · rintro ⟨before, found, able, rfl⟩
    exact ⟨before, found, if_pos able⟩

/-- A job that a pass selects, as it stands in memory. -/
structure Selected (engine : TransferEngine) (owner : String) (now : Int) (job : TransferJob) : Prop where
  eligible : (engine.eligible owner now).find? job.id = some job
  idle : engine.active.find? job.id = none

theorem selected_spec (engine : TransferEngine) (owner : String) (pass : TransferEngine.SchedulePass) :
    Exists fun chosen : List TransferJob =>
      engine.selected owner pass = chosen.map (TransferEngine.startedJob pass.now) ∧
      (chosen.map (·.id)).Nodup ∧
      (forall job, job ∈ chosen -> Selected engine owner pass.now job) ∧
      forall direction, chosen.countP (TransferJob.goes direction) ≤
        engine.slots direction := by
  unfold TransferEngine.selected TransferEngine.selectPendingJobIds
  simp only
  generalize listed : TransferEngine.candidates _ _ = candidates
  rcases fillSlots_spec (engine.slots .upload) (engine.slots .download) candidates (Nat.zero_le _)
    (Nat.zero_le _) with ⟨chosen, sublist, filled, uploads, downloads⟩
  -- Sorting and filtering leave a part of the eligible jobs, each once.
  have sorted := List.perm_insertionSort (fun one two : TransferJob => one.queuePosition ≤ two.queuePosition)
    ((TransferEngine.inOrder pass.order (engine.eligible owner pass.now).items).filter fun job =>
      decide (job.status = .pending) && (engine.active.find? job.id).isNone)
  rw [show List.insertionSort _ _ = candidates from listed] at sorted
  have visited := List.perm_insertionSort
    (fun one two : TransferJob => pass.order.idxOf one.id ≤ pass.order.idxOf two.id)
    (engine.eligible owner pass.now).items
  have source : forall job, job ∈ chosen -> Selected engine owner pass.now job := by
    intro job member
    have inside := List.mem_filter.mp (sorted.mem_iff.mp (sublist.subset member))
    have both := Bool.and_eq_true_iff.mp inside.2
    constructor
    · exact Table.find?_of_mem (visited.mem_iff.mp inside.1)
    · exact Option.isNone_iff_eq_none.mp both.2
  refine ⟨chosen, ?_, ?_, source, ?_⟩
  · rw [filled]
    exact congrArg (List.map _) (Table.filterMap_find? fun job member => (source job member).eligible)
  · apply (sublist.map _).nodup
    apply (sorted.map _).nodup_iff.mpr
    apply (List.filter_sublist.map _).nodup
    exact (visited.map _).nodup_iff.mpr (engine.eligible owner pass.now).distinct
  · intro direction
    cases direction with
    | upload => exact (Nat.zero_add _).symm.le.trans uploads
    | download => exact (Nat.zero_add _).symm.le.trans downloads

/-! ## Running operations -/

/-- What the engine takes for running is what runs, and stays within the limits. -/
structure TransferQueue.Operating (queue : TransferQueue) : Prop where
  matched : (queue.operations.map fun job => (job.id, job.direction)).Perm queue.engine.active.items
  within : forall direction, queue.operations.countP (TransferJob.goes direction) ≤ queue.limits direction

theorem TransferQueue.Operating.ids (operating : queue.Operating) :
    (queue.operations.map (·.id)).Perm (queue.engine.active.items.map Prod.fst) := by
  have mapped := operating.matched.map Prod.fst
  rw [List.map_map] at mapped
  exact mapped

theorem TransferQueue.Operating.distinct (operating : queue.Operating) : (queue.operations.map (·.id)).Nodup :=
  operating.ids.nodup_iff.mpr queue.engine.active.distinct

theorem TransferQueue.Operating.active_isSome (operating : queue.Operating) (id : String) :
    (queue.engine.active.find? id).isSome = true ↔ id ∈ queue.operations.map (·.id) := by
  rw [Table.find?_isSome]
  exact operating.ids.mem_iff.symm

theorem TransferQueue.Operating.activeCount (operating : queue.Operating) (direction : TransferDirection) :
    queue.engine.activeCount direction = queue.operations.countP (TransferJob.goes direction) := by
  unfold TransferEngine.activeCount
  rw [← operating.matched.countP_eq, List.countP_map]
  rfl

/-! ## What a pass starts -/

/-- The operations of a pass: of distinct ids that did not run, within the slots. -/
structure Admitted (engine next : TransferEngine) (started : List TransferJob) : Prop where
  distinct : (started.map (·.id)).Nodup
  idle : forall job, job ∈ started -> engine.active.find? job.id = none
  entries : next.active = engine.active.insertAll (started.map fun job => (job.id, job.direction))
  limit : forall direction, next.limit direction = engine.limit direction
  within : forall direction, started.countP (TransferJob.goes direction) ≤ engine.slots direction

theorem Idles.admitted (idles : Idles engine later) : Admitted engine later [] where
  distinct := List.nodup_nil
  idle _ member := absurd member List.not_mem_nil
  entries := idles.active
  limit := idles.limit
  within _ := Nat.zero_le _

theorem Admitted.after {middle : TransferEngine} {started : List TransferJob}
    (admitted : Admitted middle later started) (idles : Idles engine middle) :
    Admitted engine later started where
  distinct := admitted.distinct
  idle job member := idles.active ▸ admitted.idle job member
  entries := idles.active ▸ admitted.entries
  limit direction := (admitted.limit direction).trans (idles.limit direction)
  within direction := by
    have room := admitted.within direction
    unfold TransferEngine.slots TransferEngine.activeCount at room ⊢
    rw [idles.active, idles.limit] at room
    exact room

theorem startSelected_admitted (engine : TransferEngine) (owner : String)
    (pass : TransferEngine.SchedulePass) :
    Admitted engine (engine.startSelected (engine.selected owner pass) pass).1
      (engine.startSelected (engine.selected owner pass) pass).2 := by
  rcases selected_spec engine owner pass with ⟨chosen, same, distinct, source, within⟩
  rw [same]
  unfold TransferEngine.startSelected
  split
  · exact (Idles.refl engine).admitted
  · split
    · exact Idles.admitted ⟨rfl, fun direction => by cases direction <;> rfl⟩
    next next done =>
      have committed := commitJobs_ok done
      constructor
      · rw [List.map_map]
        exact distinct
      · intro job member
        rcases List.mem_map.mp member with ⟨before, inside, rfl⟩
        exact (source before inside).idle
      · exact congrArg (Table.insertAll · _) committed.active
      · intro direction
        cases direction with
        | upload => exact committed.limit .upload
        | download => exact committed.limit .download
      · intro direction
        rw [List.countP_map]
        exact within direction

theorem scheduleOnce_admitted (engine : TransferEngine) (pass : TransferEngine.SchedulePass) :
    Admitted engine (engine.scheduleOnce pass).1 (engine.scheduleOnce pass).2 := by
  have repeated := retryCommits_idles engine pass.unsaved
  unfold TransferEngine.scheduleOnce
  simp only
  split
  · exact repeated.admitted
  next owner _ =>
    split
    · exact repeated.admitted
    · split
      · exact repeated.admitted
      · exact (startSelected_admitted _ owner pass).after repeated

/-- A pass fills the slots of its limits and no more. -/
theorem schedule_operating (operating : queue.Operating) (pass : TransferEngine.SchedulePass) :
    (queue.schedule pass).Operating := by
  have admitted := scheduleOnce_admitted queue.engine pass
  unfold TransferQueue.schedule
  generalize (queue.engine.scheduleOnce pass) = outcome at admitted
  rcases outcome with ⟨next, started⟩
  constructor
  · change ((started ++ queue.operations).map fun job => (job.id, job.direction)).Perm next.active.items
    have added := Table.items_insertAll_perm queue.engine.active
      (started.map fun job => (job.id, job.direction))
      (by
        rw [List.map_map]
        exact admitted.distinct)
      (by
        intro entry member
        rcases List.mem_map.mp member with ⟨job, inside, rfl⟩
        exact admitted.idle job inside)
    rw [admitted.entries, List.map_append]
    exact ((List.Perm.refl _).append operating.matched).trans added.symm
  · intro direction
    change (started ++ queue.operations).countP (TransferJob.goes direction) ≤
      if started.any (TransferJob.goes direction) then next.limit direction else queue.limits direction
    rw [List.countP_append]
    have before := operating.within direction
    have room := admitted.within direction
    rw [TransferEngine.slots, operating.activeCount, ← admitted.limit direction] at room
    change started.countP (TransferJob.goes direction) ≤
      next.limit direction - queue.operations.countP (TransferJob.goes direction) at room
    split
    next begins =>
      have positive : 0 < started.countP (TransferJob.goes direction) :=
        List.countP_pos_iff.mpr (List.any_eq_true.mp begins)
      omega
    next stays =>
      have zero : started.countP (TransferJob.goes direction) = 0 := by
        apply List.countP_eq_zero.mpr
        intro job member goes
        exact stays (List.any_eq_true.mpr ⟨job, member, goes⟩)
      omega

end Transfers
end TelegramDrive
