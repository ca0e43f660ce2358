import TelegramDrive.Transfers.DownloadQueue
import TelegramDrive.Transfers.Restart

namespace TelegramDrive
namespace Transfers

/-!
# A transfer runs once

The invariant of every run that enqueues no job over a forgotten row, and what it
says of the operations: one for an id, within the limits, started after its
commit, and not again after a success.
-/

open Slot

variable {queue next : TransferQueue} {engine : TransferEngine} {system : FileSystem}

/-! ## The invariant -/

/-- The slots are sound, and what runs is what the engine takes for running. -/
structure TransferQueue.Ordered (queue : TransferQueue) : Prop where
  sound : queue.Sound
  operating : queue.Operating

theorem TransferQueue.Operating.frame (operating : queue.Operating)
    (active : engine.active = queue.engine.active) :
    TransferQueue.Operating { queue with engine := engine } where
  matched := by
    change (queue.operations.map _).Perm engine.active.items
    rw [active]
    exact operating.matched
  within := operating.within

variable {result : Except String TransferEngine}

theorem TransferQueue.Operating.adopt (operating : queue.Operating)
    (kept : forall engine, result = .ok engine -> engine.active = queue.engine.active) :
    (queue.adopt result).Operating := by
  cases result with
  | error error => exact operating
  | ok engine => exact operating.frame (kept engine rfl)

theorem TransferQueue.Operating.removeIf (operating : queue.Operating) {seconds : Int}
    (kept : forall engine, result = .ok engine -> engine.active = queue.engine.active) :
    (queue.removeIf seconds result).Operating := by
  cases result with
  | error error => exact operating
  | ok engine => exact ⟨(operating.frame (kept engine rfl)).matched, operating.within⟩

theorem transition_operating (operating : queue.Operating) (id : String) (action : TransferAction)
    (session : SessionReading) (expected : Option String) (now : Int) (failure : Option String) :
    (queue.transition id action session expected now failure).Operating := by
  unfold TransferQueue.transition
  split
  · exact operating
  next engine asked done => exact ⟨(operating.frame (transition_active done)).matched, operating.within⟩

variable {event : QueueEvent}

/-- What the engine takes for running is what runs, whatever happens. -/
theorem act_operating (operating : queue.Operating)
    (moved : queue.act system event = some next) : next.Operating := by
  cases event with
  | start now seconds stops => cases moved
  | stop =>
    cases moved
    exact opened_operating queue _ _ _ _
  | schedule pass =>
    cases moved
    exact schedule_operating operating pass
  | finish id result now failure =>
    simp only [TransferQueue.act] at moved
    split at moved
    · cases moved
      exact finish_operating operating id result now failure
    · cases moved
  | progress update checkpointDue failure =>
    cases moved
    exact operating.frame (recordProgress_active queue.engine update checkpointDue failure)
  | enqueue requests session disk now failure =>
    cases moved
    exact operating.adopt fun _ done => enqueueMany_active done
  | transition id action session expected now failure =>
    cases moved
    exact transition_operating operating id action session expected now failure
  | withdraw id seconds failure =>
    cases moved
    exact ⟨(operating.frame (withdraw_active queue.engine id seconds failure)).matched, operating.within⟩
  | clearTerminal direction includeFailedAndCancelled session expected seconds failure =>
    cases moved
    exact operating.removeIf fun _ done => clearTerminal_active done
  | adopt owner ids confirmed session now failure =>
    cases moved
    exact operating.adopt fun _ done => adoptAll_active done
  | discard owner ids session seconds failure =>
    cases moved
    exact operating.removeIf fun _ done => discardLegacy_active done
  | setLimits maxUploads maxDownloads =>
    cases moved
    exact operating.frame rfl

theorem transferMachine_operating (operating : queue.Operating)
    (moved : (TransferQueue.transferMachine system).step queue event = some next) : next.Operating := by
  simp only [TransferQueue.transferMachine] at moved
  split at moved
  · exact act_operating operating moved
  · split at moved
    next now seconds stops =>
      cases moved
      exact restart_operating queue now seconds stops
    · cases moved

theorem TransferQueue.Sound.adopt (sound : queue.Sound)
    (kept : forall engine, result = .ok engine -> TransferQueue.Sound { queue with engine := engine }) :
    (queue.adopt result).Sound := by
  cases result with
  | error error => exact sound
  | ok engine => exact kept engine rfl

theorem TransferQueue.Sound.removeIf (sound : queue.Sound) {seconds : Int}
    (kept : forall engine, result = .ok engine -> (queue.remove seconds engine).Sound) :
    (queue.removeIf seconds result).Sound := by
  cases result with
  | error error => exact sound
  | ok engine => exact kept engine rfl

theorem transition_step_sound (sound : queue.Sound) (id : String) (action : TransferAction)
    (session : SessionReading) (expected : Option String) (now : Int) (failure : Option String) :
    (queue.transition id action session expected now failure).Sound := by
  unfold TransferQueue.transition
  split
  · exact sound
  next engine asked done =>
    have kept := transition_sound sound done
    intro other
    apply (kept other).weaken
    · exact fun now => now
    · intro succeeded
      change other ∈ (if _ then _ else _) at succeeded
      split at succeeded
      · exact (List.mem_filter.mp succeeded).1
      · exact succeeded
    · exact fun _ now => now

/-- A running process keeps every slot sound at each event that enqueues nothing
over a forgotten row. -/
theorem act_sound (ordered : queue.Ordered)
    (fresh : queue.enqueuesFresh event = true) (moved : queue.act system event = some next) :
    next.Sound := by
  have sound := ordered.sound
  cases event with
  | start now seconds stops => cases moved
  | stop =>
    cases moved
    exact stop_sound sound
  | schedule pass =>
    cases moved
    exact schedule_sound sound pass
  | finish id result now failure =>
    simp only [TransferQueue.act] at moved
    split at moved
    next runs =>
      cases moved
      have listed : id ∈ queue.operations.map (·.id) := by
        rcases List.any_eq_true.mp runs with ⟨job, member, same⟩
        exact List.mem_map.mpr ⟨job, member, of_decide_eq_true same⟩
      exact finish_sound sound ordered.operating listed result now failure
    · cases moved
  | progress update checkpointDue failure =>
    cases moved
    exact recordProgress_sound sound ordered.operating update checkpointDue failure
  | enqueue requests session disk now failure =>
    cases moved
    exact sound.adopt fun _ done => enqueueMany_sound sound fresh done
  | transition id action session expected now failure =>
    cases moved
    exact transition_step_sound sound id action session expected now failure
  | withdraw id seconds failure =>
    cases moved
    exact withdraw_sound sound id seconds failure
  | clearTerminal direction includeFailedAndCancelled session expected seconds failure =>
    cases moved
    exact sound.removeIf fun _ done => clearTerminal_sound sound done
  | adopt owner ids confirmed session now failure =>
    cases moved
    exact sound.adopt fun _ done => adoptAll_sound sound done
  | discard owner ids session seconds failure =>
    cases moved
    exact sound.removeIf fun _ done => discardLegacy_sound sound done
  | setLimits maxUploads maxDownloads =>
    cases moved
    exact sound

theorem transferMachine_ordered (ordered : queue.Ordered) (fresh : queue.enqueuesFresh event = true)
    (moved : (TransferQueue.transferMachine system).step queue event = some next) : next.Ordered := by
  refine ⟨?_, transferMachine_operating ordered.operating moved⟩
  simp only [TransferQueue.transferMachine] at moved
  split at moved
  · exact act_sound ordered fresh moved
  · split at moved
    next now seconds stops =>
      cases moved
      exact restart_sound ordered.sound now seconds stops
    · cases moved

/-- No id has both a row and a tombstone. -/
def TransferStore.Apart (store : TransferStore) : Prop :=
  forall id, (store.rows.find? id).isSome = true -> store.tombstones.find? id = none

theorem offline_ordered {store : TransferStore} (apart : store.Apart) :
    (TransferQueue.offline store).Ordered where
  sound id := {
    apart := apart id
    stored := fun _ found => nomatch found
    copied := fun _ waiting => nomatch waiting
    copyOwned := fun _ waiting => nomatch waiting
    owned := fun runs => absurd runs List.not_mem_nil
    uncopied := fun _ => rfl
    accounted := fun either => either.elim (fun runs => absurd runs List.not_mem_nil)
      fun succeeded => absurd succeeded List.not_mem_nil
    completed := fun succeeded => absurd succeeded List.not_mem_nil
    once := fun runs => absurd runs List.not_mem_nil
    buried := fun _ retained => absurd retained List.not_mem_nil }
  operating := ⟨.nil, fun _ => Nat.le_refl _⟩

/-- The runs that enqueue nothing over a forgotten row. -/
abbrev FreshRun (system : FileSystem) (store : TransferStore) (events : List QueueEvent)
    (queue : TransferQueue) : Prop :=
  (TransferQueue.transferMachine system).Run (fun queue event => queue.enqueuesFresh event = true)
    (TransferQueue.offline store) events queue

theorem FreshRun.ordered {store : TransferStore} {events : List QueueEvent} (apart : store.Apart)
    (run : FreshRun system store events queue) : queue.Ordered :=
  Machine.Run.invariant TransferQueue.Ordered
    (fun _ _ _ fresh ordered moved => transferMachine_ordered ordered fresh moved) run
    (offline_ordered apart)

/-! ## What starts -/

/-- An operation that a step has started. -/
def Starting (before after : TransferQueue) (job : TransferJob) : Prop :=
  job ∈ after.operations ∧ job ∉ before.operations

/-- An operation that was committed as active, and whose id has not succeeded yet. -/
structure StartsDurably (before after : TransferQueue) (job : TransferJob) : Prop where
  committed : after.engine.store.rows.find? job.id = some job
  active : job.status.isActive = true
  first : job.id ∉ before.succeeded

theorem starting_schedule {job : TransferJob}
    (moved : (TransferQueue.transferMachine system).step queue event = some next)
    (starting : Starting queue next job) :
    Exists fun pass => event = .schedule pass ∧ next = queue.schedule pass := by
  rcases starting with ⟨runs, idle⟩
  simp only [TransferQueue.transferMachine] at moved
  split at moved
  · cases event with
    | start now seconds stops => cases moved
    | stop =>
      cases moved
      exact absurd runs List.not_mem_nil
    | schedule pass =>
      cases moved
      exact ⟨pass, rfl, rfl⟩
    | finish id result now failure =>
      simp only [TransferQueue.act] at moved
      split at moved
      · cases moved
        exact absurd (List.mem_of_mem_eraseP runs) idle
      · cases moved
    | progress update checkpointDue failure | withdraw id seconds failure
    | setLimits maxUploads maxDownloads =>
      cases moved
      exact absurd runs idle
    | enqueue requests session disk now failure | adopt owner ids confirmed session now failure =>
      cases moved
      unfold TransferQueue.adopt at runs
      split at runs
      · exact absurd runs idle
      · exact absurd runs idle
    | transition id action session expected now failure =>
      cases moved
      unfold TransferQueue.transition at runs
      split at runs
      · exact absurd runs idle
      · exact absurd runs idle
    | clearTerminal direction includeFailedAndCancelled session expected seconds failure
    | discard owner ids session seconds failure =>
      cases moved
      unfold TransferQueue.removeIf at runs
      split at runs
      · exact absurd runs idle
      · exact absurd runs idle
  · split at moved
    next now seconds stops =>
      cases moved
      unfold TransferQueue.start at runs
      simp only at runs
      split at runs
      · exact absurd runs List.not_mem_nil
      · exact absurd runs List.not_mem_nil
    · cases moved

theorem starts_durably (ordered : queue.Ordered) {job : TransferJob}
    (moved : (TransferQueue.transferMachine system).step queue event = some next)
    (starting : Starting queue next job) : StartsDurably queue next job := by
  rcases starting_schedule moved starting with ⟨pass, -, rfl⟩
  have starts := (scheduleOnce_sound ordered.sound pass).2
  have begun : job ∈ (queue.engine.scheduleOnce pass).2 := by
    rcases List.mem_append.mp starting.1 with now | earlier
    · exact now
    · exact absurd earlier starting.2
  exact ⟨starts.saved job begun, starts.active job begun, starts.unfinished job begun⟩

/-- One operation for an id, and no more than the limit of the last start. -/
structure SingleExecution (queue : TransferQueue) : Prop where
  once : (queue.operations.map (·.id)).Nodup
  within : forall direction, queue.operations.countP (TransferJob.goes direction) ≤ queue.limits direction

/-- In every run that enqueues no job over a row that a failed deletion left, each
id has one running operation at most, each direction stays within its limit, and
every operation starts after its active status was saved and never again after it
succeeded. -/
theorem transfers_execute_once {store : TransferStore} {events : List QueueEvent} (apart : store.Apart)
    (run : FreshRun system store events queue) :
    SingleExecution queue ∧
      forall event next, queue.enqueuesFresh event = true ->
        (TransferQueue.transferMachine system).step queue event = some next ->
        forall job, Starting queue next job -> StartsDurably queue next job := by
  have ordered := run.ordered apart
  constructor
  · exact ⟨ordered.operating.distinct, ordered.operating.within⟩
  · intro event next _ moved job starting
    exact starts_durably ordered moved starting

/-! ## A row that a failed deletion left -/

def TransferStore.empty : TransferStore := ⟨.empty, .empty⟩

theorem TransferStore.empty_apart : TransferStore.empty.Apart := fun _ stands => nomatch stands

def sampleUpload (id : String) : TransferEnqueueRequest where
  id := id
  ownerId := some "1"
  direction := .upload
  kind := .localUpload
  path := some "/a"
  url := none
  messageId := none
  filename := "a"
  savePath := none
  collisionPolicy := .keepBoth
  totalBytes := some 1
  initialStatus := none
  origin := some "sync"

def samplePass (unsaved : List String) : TransferEngine.SchedulePass where
  unsaved := unsaved
  session := ⟨some "1", true⟩
  connected := true
  order := []
  now := 0
  failure := none

/-- A supervised upload succeeds and is withdrawn, its row cannot be deleted, and
its id is enqueued again. -/
def forgottenRow : List QueueEvent :=
  [.start 0 0 none, .enqueue [sampleUpload "s"] ⟨some "1", true⟩ [] 0 none, .schedule (samplePass []),
    .finish "s" (.ok ⟨some 7, none⟩) 0 none, .withdraw "s" 0 (some "disk I/O error"),
    .enqueue [sampleUpload "s"] ⟨some "1", true⟩ [] 0 none]

/-- The next pass starts the upload a second time, and its row still says that it
is completed. -/
theorem forgotten_row_runs_again :
    Exists fun before => Exists fun after => Exists fun job =>
      (TransferQueue.transferMachine sampleSystem).replay (.offline .empty) forgottenRow = some before ∧
      (TransferQueue.transferMachine sampleSystem).step before (.schedule (samplePass [])) = some after ∧
      Starting before after job ∧ job.id ∈ before.succeeded ∧
      (after.engine.store.rows.find? job.id).map (·.status) = some .completed := by
  have shape : Exists fun before =>
      (TransferQueue.transferMachine sampleSystem).replay (.offline .empty) forgottenRow = some before ∧
      Exists fun after => (TransferQueue.transferMachine sampleSystem).step before (.schedule (samplePass [])) = some after ∧
        Exists fun job => job ∈ after.operations ∧ job ∉ before.operations ∧ job.id ∈ before.succeeded ∧
          (after.engine.store.rows.find? job.id).map (·.status) = some .completed := by
    decide +kernel
  rcases shape with ⟨before, replayed, after, moved, job, member, fresh, facts⟩
  exact ⟨before, after, job, replayed, moved, ⟨member, fresh⟩, facts⟩

/-- An upload whose final commit fails twice is not run again. -/
theorem unsaved_result_runs_once :
    Exists fun queue =>
      ((TransferQueue.transferMachine sampleSystem).guarded
        (fun queue event => queue.enqueuesFresh event)).replay (.offline .empty)
          [.start 0 0 none, .enqueue [sampleUpload "s"] ⟨some "1", true⟩ [] 0 none,
            .schedule (samplePass []), .finish "s" (.ok ⟨some 7, none⟩) 0 (some "disk I/O error"),
            .schedule (samplePass ["s"])] = some queue ∧
      SingleExecution queue ∧
      forall next, (TransferQueue.transferMachine sampleSystem).step queue (.schedule (samplePass [])) =
        some next -> forall job, Starting queue next job -> StartsDurably queue next job := by
  refine (Option.isSome_iff_exists.mp ?_).imp fun queue replayed => ⟨replayed, ?_⟩
  · decide +kernel
  · have once := transfers_execute_once TransferStore.empty_apart (Machine.run_of_guarded_replay replayed)
    exact ⟨once.1, fun next moved => once.2 _ next rfl moved⟩

end Transfers
end TelegramDrive
