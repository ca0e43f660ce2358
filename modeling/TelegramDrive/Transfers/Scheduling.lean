import TelegramDrive.Transfers.Running
import TelegramDrive.Transfers.Slots

namespace TelegramDrive
namespace Transfers

/-!
# The scheduler

A pass first repeats the final commits that failed, then commits the jobs it
selects, and starts them only after that.  It selects distinct jobs that are not
running, no more than the slots that are left.
-/

open Slot

variable {queue : TransferQueue} {next : TransferEngine}

/-- All slots are sound. -/
def TransferQueue.Sound (queue : TransferQueue) : Prop := forall id, (queue.slot id).Sound

/-! ## Commits -/

/-- What a record must satisfy to be committed over a slot. -/
structure Fits (slot : Slot) (job : TransferJob) : Prop where
  newer : forall row, slot.row = some row -> row.revision ≤ job.revision
  copy : forall pending, slot.pending = some pending -> CopyOf job pending
  owned : slot.operating -> job.ownerId.isSome
  completed : slot.succeeded -> job.status = .completed

variable {updated : List TransferJob}

theorem Committed.slot_absent (committed : Committed queue.engine next updated)
    {id : String} (absent : forall job, job ∈ updated -> job.id ≠ id) :
    ({ queue with engine := next } : TransferQueue).slot id = queue.slot id := by
  simp only [TransferQueue.slot, committed.store.others id absent, committed.store.tombstones,
    committed.others id absent, committed.pendingCommits]

theorem Committed.slot_updated (committed : Committed queue.engine next updated)
    (agree : Agree updated) (newer : Newer queue.engine.store updated) {job : TransferJob}
    (member : job ∈ updated) :
    ({ queue with engine := next } : TransferQueue).slot job.id =
      { queue.slot job.id with row := some job, job := some job } := by
  simp only [TransferQueue.slot, committed.store.written agree newer job member,
    committed.store.tombstones, committed.visible agree job member, committed.pendingCommits]

theorem Committed.sound (sound : queue.Sound)
    (committed : Committed queue.engine next updated) (agree : Agree updated)
    (fits : forall job, job ∈ updated -> Fits (queue.slot job.id) job) :
    TransferQueue.Sound { queue with engine := next } := by
  have newer : Newer queue.engine.store updated := fun job member => (fits job member).newer
  intro id
  by_cases listed : Exists fun job => job ∈ updated ∧ job.id = id
  · rcases listed with ⟨job, member, rfl⟩
    rw [committed.slot_updated agree newer member]
    have fit := fits job member
    exact (sound job.id).commit (committed.store.unburied job member) fit.copy fit.owned fit.completed
  · rw [committed.slot_absent fun job member same => listed ⟨job, member, same⟩]
    exact sound id

theorem Committed.forgetting {engine : TransferEngine}
    (committed : Committed engine next updated) (id : String) :
    Committed { engine with pendingCommits := engine.pendingCommits.erase id }
      { next with pendingCommits := next.pendingCommits.erase id } updated where
  active := committed.active
  pendingCommits := congrArg (Table.erase · id) committed.pendingCommits
  limit direction := by cases direction <;> [exact committed.limit .upload; exact committed.limit .download]
  store := committed.store
  others := committed.others
  visible := committed.visible

theorem sound_forgetting (sound : queue.Sound) (id : String) :
    TransferQueue.Sound { queue with
      engine := { queue.engine with pendingCommits := queue.engine.pendingCommits.erase id } } := by
  intro other
  have same : ({ queue with
      engine := { queue.engine with pendingCommits := queue.engine.pendingCommits.erase id } } :
        TransferQueue).slot other =
      { queue.slot other with pending := if other = id then none else (queue.slot other).pending } := by
    simp only [TransferQueue.slot, Table.find?_erase]
  rw [same]
  split
  · exact (sound other).saved
  · exact sound other

/-- The commit of a waiting result, with a revision past that of its copy. -/
theorem commitPending_sound (sound : queue.Sound) {pending job : TransferJob} {failure : Option String}
    (waiting : queue.engine.pendingCommits.find? pending.id = some pending)
    (found : queue.engine.jobs.find? pending.id = some job)
    (done : queue.engine.commitJobs
      [{ pending with revision := nextRevision job.revision, persistencePending := false }] failure = .ok next) :
    TransferQueue.Sound { queue with
      engine := { next with pendingCommits := next.pendingCommits.erase pending.id } } := by
  apply ((commitJobs_ok done).forgetting pending.id).sound (sound_forgetting sound pending.id)
    (agree_singleton _)
  intro other member
  cases List.mem_singleton.mp member
  rcases (sound pending.id).copied pending waiting with ⟨copy, listed, copyOf⟩
  cases found.symm.trans listed
  rcases (sound pending.id).stored job found with ⟨row, stands, rowOf⟩
  constructor
  · intro other listed
    cases stands.symm.trans listed
    exact rowOf.revision.trans (le_nextRevision job.revision)
  · intro other listed
    change (queue.engine.pendingCommits.erase pending.id).find? pending.id = some other at listed
    rw [Table.find?_erase, if_pos rfl] at listed
    cases listed
  · intro _
    exact (sound pending.id).copyOwned pending waiting
  · intro succeeded
    exact copyOf.status ▸ (sound pending.id).completed succeeded job found

/-! ## The repeated commits of a pass -/

/-- What the repeated commits of a pass keep. -/
structure Repeated (queue : TransferQueue) (next : TransferEngine) : Prop where
  sound : TransferQueue.Sound { queue with engine := next }
  active : next.active = queue.engine.active
  limit : forall direction, next.limit direction = queue.engine.limit direction

theorem retryCommit_repeated (sound : queue.Sound) {pending : TransferJob} (unsaved : List String)
    (waiting : queue.engine.pendingCommits.find? pending.id = some pending) :
    Repeated queue (TransferEngine.retryCommit unsaved queue.engine pending) ∧
      forall id, id ≠ pending.id ->
        (TransferEngine.retryCommit unsaved queue.engine pending).pendingCommits.find? id =
          queue.engine.pendingCommits.find? id := by
  unfold TransferEngine.retryCommit
  simp only
  split
  · exact ⟨⟨sound, rfl, fun _ => rfl⟩, fun _ _ => rfl⟩
  next next done =>
    rcases (sound pending.id).copied pending waiting with ⟨copy, listed, copyOf⟩
    have committed := commitJobs_ok done
    constructor
    · constructor
      · rw [← copyOf.revision] at done
        exact commitPending_sound sound waiting listed done
      · exact committed.active
      · intro direction
        exact (committed.forgetting pending.id).limit direction
    · intro id apart
      rw [Table.find?_erase, if_neg apart, committed.pendingCommits]

theorem foldl_retryCommit_repeated (sound : queue.Sound) (unsaved : List String) {waiting : List TransferJob}
    (distinct : (waiting.map (·.id)).Nodup)
    (listed : forall pending, pending ∈ waiting ->
      queue.engine.pendingCommits.find? pending.id = some pending) :
    Repeated queue (waiting.foldl (TransferEngine.retryCommit unsaved) queue.engine) := by
  induction waiting generalizing queue with
  | nil => exact ⟨sound, rfl, fun _ => rfl⟩
  | cons pending waiting ih =>
    rw [List.map_cons, List.nodup_cons] at distinct
    rcases retryCommit_repeated sound unsaved (listed pending List.mem_cons_self) with ⟨first, others⟩
    have rest := ih first.sound distinct.2 (by
        intro later member
        have apart : later.id ≠ pending.id := fun same =>
          distinct.1 (List.mem_map.mpr ⟨later, member, same⟩)
        exact (others later.id apart).trans (listed later (List.mem_cons_of_mem _ member)))
    exact ⟨rest.sound, rest.active.trans first.active,
      fun direction => (rest.limit direction).trans (first.limit direction)⟩

theorem retryCommits_repeated (sound : queue.Sound) (unsaved : List String) :
    Repeated queue (queue.engine.retryCommits unsaved) :=
  foldl_retryCommit_repeated sound unsaved queue.engine.pendingCommits.distinct
    fun _ member => Table.find?_of_mem member

/-! ## A pass of the scheduler -/

theorem slot_insert (queue : TransferQueue) (job : TransferJob) (id : String) :
    ({ queue with engine := { queue.engine with jobs := queue.engine.jobs.insert job } } :
      TransferQueue).slot id =
      { queue.slot id with job := if id = job.id then some job else (queue.slot id).job } := by
  simp only [TransferQueue.slot, Table.find?_insert]

theorem insert_sound (sound : queue.Sound) {job : TransferJob} (later : TransferJob)
    (found : queue.engine.jobs.find? later.id = some job) (newer : job.revision ≤ later.revision)
    (unended : later.status.isTerminal = false)
    (waits : queue.engine.pendingCommits.find? later.id = none) (owner : later.ownerId = job.ownerId)
    (unfinished : job.status ≠ .completed) :
    TransferQueue.Sound { queue with
      engine := { queue.engine with jobs := queue.engine.jobs.insert later } } := by
  intro id
  rw [slot_insert]
  split
  next same =>
    subst same
    exact (sound later.id).touch found newer unended waits owner unfinished
  · exact sound id

theorem pauseUnsaved_sound (sound : queue.Sound) (error : String) (chosen : List TransferJob)
    (waiting : forall job, job ∈ chosen -> Exists fun current =>
      queue.engine.jobs.find? job.id = some current ∧ current.persistencePending = false ∧
        current.status ≠ .completed) :
    TransferQueue.Sound { queue with engine := { queue.engine with
      jobs := chosen.foldl (TransferEngine.pauseUnsaved error) queue.engine.jobs } } := by
  induction chosen generalizing queue with
  | nil => exact sound
  | cons job chosen ih =>
    rcases waiting job List.mem_cons_self with ⟨current, found, saved, unfinished⟩
    have itsId := Table.key_of_find? found
    rw [List.foldl_cons]
    have paused : TransferEngine.pauseUnsaved error queue.engine.jobs job =
        queue.engine.jobs.insert { current with
          status := .paused
          error := some error
          errorCategory := some .persistence
          revision := nextRevision current.revision } := by
      unfold TransferEngine.pauseUnsaved
      rw [found]
    rw [paused]
    rw [← itsId] at found
    refine @ih { queue with engine := { queue.engine with
      jobs := queue.engine.jobs.insert { current with
        status := .paused
        error := some error
        errorCategory := some .persistence
        revision := nextRevision current.revision } } } ?_ ?_
    · exact insert_sound sound _ found (le_nextRevision _) rfl
        ((sound current.id).pending_none found saved) rfl unfinished
    · intro later member
      rcases waiting later (List.mem_cons_of_mem _ member) with ⟨other, listed, clean, unended⟩
      simp only [Table.find?_insert]
      split
      · exact ⟨_, rfl, saved, fun same => by cases same⟩
      · exact ⟨other, listed, clean, unended⟩

/-- What a pass that starts operations has committed. -/
structure Starts (queue : TransferQueue) (next : TransferEngine) (started : List TransferJob) : Prop extends
    Admitted queue.engine next started where
  saved : forall job, job ∈ started -> next.store.rows.find? job.id = some job
  active : forall job, job ∈ started -> job.status.isActive = true
  unfinished : forall job, job ∈ started -> job.id ∉ queue.succeeded

/-- The queue after a pass, from what the engine made of it. -/
def TransferQueue.started (queue : TransferQueue) (next : TransferEngine) (started : List TransferJob) :
    TransferQueue :=
  { queue with engine := next, operations := started ++ queue.operations }

theorem starts_nil (idles : Idles queue.engine next) : Starts queue next [] where
  toAdmitted := idles.admitted
  saved _ member := absurd member List.not_mem_nil
  active _ member := absurd member List.not_mem_nil
  unfinished _ member := absurd member List.not_mem_nil

theorem isEligible_spec {owner : String} {now : Int} {job : TransferJob}
    (able : TransferEngine.isEligible owner now job = true) :
    job.ownerId = some owner ∧ job.persistencePending = false ∧ job.status ≠ .completed := by
  unfold TransferEngine.isEligible at able
  simp only [Bool.and_eq_true, decide_eq_true_eq, Bool.not_eq_true'] at able
  rcases able with ⟨⟨owned, saved⟩, waiting⟩
  refine ⟨owned, saved, ?_⟩
  intro completed
  rw [completed] at waiting
  cases waiting

theorem startedJob_active (now : Int) (job : TransferJob) :
    (TransferEngine.startedJob now job).status.isActive = true := by
  unfold TransferEngine.startedJob
  simp only
  split
  · rfl
  · rfl

theorem startSelected_sound (sound : queue.Sound) (owner : String) (pass : TransferEngine.SchedulePass) :
    (queue.started
      (queue.engine.startSelected (queue.engine.selected owner pass) pass).1
      (queue.engine.startSelected (queue.engine.selected owner pass) pass).2).Sound ∧
    Starts queue (queue.engine.startSelected (queue.engine.selected owner pass) pass).1
      (queue.engine.startSelected (queue.engine.selected owner pass) pass).2 := by
  rcases selected_spec queue.engine owner pass with ⟨chosen, same, distinct, source, within⟩
  rw [same]
  -- The record of a chosen job, as it stands in memory.
  have waiting : forall job, job ∈ chosen -> Exists fun current =>
      queue.engine.jobs.find? job.id = some current ∧ current.ownerId = some owner ∧
        current.persistencePending = false ∧ current.status ≠ .completed ∧
        job = { current with status := .pending } := by
    intro job member
    rcases eligible_find?.mp (source job member).eligible with ⟨current, found, able, equal⟩
    rcases isEligible_spec able with ⟨owned, saved, unfinished⟩
    exact ⟨current, found, owned, saved, unfinished, equal⟩
  have admitted := startSelected_admitted queue.engine owner pass
  rw [same] at admitted
  unfold TransferEngine.startSelected at admitted ⊢
  split
  · exact ⟨sound, starts_nil (.refl queue.engine)⟩
  next proceeds =>
    rw [if_neg proceeds] at admitted
    split
    next error failed =>
      constructor
      · apply pauseUnsaved_sound sound error
        intro job member
        rcases List.mem_map.mp member with ⟨before, inside, rfl⟩
        rcases waiting before inside with ⟨current, found, -, saved, unfinished, -⟩
        exact ⟨current, found, saved, unfinished⟩
      · exact starts_nil ⟨rfl, fun direction => by cases direction <;> rfl⟩
    next next done =>
      have committed := commitJobs_ok done
      have ids : (chosen.map (TransferEngine.startedJob pass.now)).map (·.id) = chosen.map (·.id) := by
        rw [List.map_map]
        rfl
      have agree : Agree (chosen.map (TransferEngine.startedJob pass.now)) := by
        intro one first two second equal
        exact List.inj_on_of_nodup_map (ids ▸ distinct) first second equal
      have fits : forall job, job ∈ chosen.map (TransferEngine.startedJob pass.now) ->
          Fits (queue.slot job.id) job := by
        intro job member
        rcases List.mem_map.mp member with ⟨before, inside, rfl⟩
        rcases waiting before inside with ⟨current, found, owned, saved, unfinished, rfl⟩
        rcases (sound current.id).stored current found with ⟨row, stands, rowOf⟩
        constructor
        · intro other listed
          cases stands.symm.trans listed
          exact rowOf.revision.trans (le_nextRevision current.revision)
        · intro pending listed
          cases ((sound current.id).pending_none found saved).symm.trans listed
        · intro _
          change current.ownerId.isSome = true
          rw [owned]
          rfl
        · intro succeeded
          exact absurd ((sound current.id).completed succeeded current found) unfinished
      have middle := committed.sound sound agree fits
      have newer : Newer queue.engine.store (chosen.map (TransferEngine.startedJob pass.now)) :=
        fun job member => (fits job member).newer
      have unfinished : forall job, job ∈ chosen.map (TransferEngine.startedJob pass.now) ->
          job.id ∉ queue.succeeded := by
        intro job member succeeded
        rcases List.mem_map.mp member with ⟨before, inside, rfl⟩
        rcases waiting before inside with ⟨current, found, -, -, apart, rfl⟩
        exact apart ((sound current.id).completed succeeded current found)
      constructor
      · intro id
        by_cases begins : id ∈ (chosen.map (TransferEngine.startedJob pass.now)).map (·.id)
        · rcases List.mem_map.mp begins with ⟨job, member, rfl⟩
          rcases List.mem_map.mp member with ⟨before, inside, rfl⟩
          rcases waiting before inside with ⟨current, found, owned, saved, -, rfl⟩
          have visible := committed.visible agree _ member
          have waits : next.pendingCommits.find? current.id = none := by
            rw [committed.pendingCommits]
            exact (sound current.id).pending_none found saved
          have begun := (middle current.id).begin visible waits
            (by
              change current.ownerId.isSome = true
              rw [owned]
              rfl)
            (unfinished (TransferEngine.startedJob pass.now { current with status := .pending }) member)
          exact begun.weaken (fun _ => trivial) (fun now => now) (fun _ now => now)
        · apply (middle id).weaken
          · intro runs
            change id ∈ (chosen.map (TransferEngine.startedJob pass.now) ++ queue.operations).map (·.id) at runs
            rw [List.map_append, List.mem_append] at runs
            exact runs.resolve_left begins
          · exact fun now => now
          · exact fun _ now => now
      · refine ⟨?_, ?_, ?_, unfinished⟩
        · rw [done] at admitted
          exact admitted
        · intro job member
          exact committed.store.written agree newer job member
        · intro job member
          rcases List.mem_map.mp member with ⟨before, -, rfl⟩
          exact startedJob_active pass.now before

theorem scheduleOnce_sound (sound : queue.Sound) (pass : TransferEngine.SchedulePass) :
    (queue.started (queue.engine.scheduleOnce pass).1 (queue.engine.scheduleOnce pass).2).Sound ∧
    Starts queue (queue.engine.scheduleOnce pass).1 (queue.engine.scheduleOnce pass).2 := by
  have repeated := retryCommits_repeated sound pass.unsaved
  have nothing : Starts queue (queue.engine.retryCommits pass.unsaved) [] :=
    starts_nil ⟨repeated.active, repeated.limit⟩
  unfold TransferEngine.scheduleOnce
  simp only
  split
  · exact ⟨repeated.sound, nothing⟩
  next owner _ =>
    split
    · exact ⟨repeated.sound, nothing⟩
    · split
      · exact ⟨repeated.sound, nothing⟩
      · rcases startSelected_sound repeated.sound owner pass with ⟨later, starts⟩
        constructor
        · exact later
        · exact {
            toAdmitted := starts.toAdmitted.after ⟨repeated.active, repeated.limit⟩
            saved := starts.saved
            active := starts.active
            unfinished := starts.unfinished }

theorem schedule_sound (sound : queue.Sound) (pass : TransferEngine.SchedulePass) :
    (queue.schedule pass).Sound :=
  (scheduleOnce_sound sound pass).1

end Transfers
end TelegramDrive
