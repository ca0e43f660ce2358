import Mathlib.Data.List.Pairwise
import TelegramDrive.Library.Machine
import TelegramDrive.Transfers.Destination

namespace TelegramDrive
namespace Transfers

/-!
# Queued downloads on one disk

Downloads are enqueued in batches, each with a name reserved among those still
queued, and published in any order while other programs create files.  A
numbered name that `KeepBoth` takes at publication is chosen from the directory
alone, not from the reservations: it may be the name that another download has
reserved.  That download then replaces the file, or skips because of it.

What else happens to a job, such as a pause or a failure, only changes its
status here; a job that is not completed may be published at any time.
-/

/-- A job, and the downloads that were completed when it was enqueued. -/
structure QueuedDownload where
  job : TransferJob
  after : List String

/-- The queue and the disk.  `replaced` and `skipped` have each download with the
owners of the files it replaced, or that it skipped because of. -/
structure Downloads where
  disk : Disk
  queue : List QueuedDownload
  replaced : List (String × FileOwner)
  skipped : List (String × FileOwner)

inductive DownloadEvent
  | enqueue (created : List TransferJob)
  | publish (id : String) (meanwhile : List (List Creation)) (stops : Option Nat)
  | skipExisting (id : String)
  | settle (id : String) (status : TransferStatus)
  | create (made : Creation)
deriving DecidableEq

section Machine

variable (system : FileSystem)

namespace Downloads

/-- A disk with what other programs created. -/
def start (made : List Creation) : Downloads where
  disk := Disk.createAll system ([] : Disk) made
  queue := []
  replaced := []
  skipped := []

def find? (state : Downloads) (id : String) : Option QueuedDownload :=
  state.queue.find? fun queued => queued.job.id = id

/-- A download that may still be published. -/
def QueuedDownload.runs (queued : QueuedDownload) : Bool :=
  decide (queued.job.direction = .download) && decide (queued.job.status ≠ .completed) &&
    queued.job.ownerId.isSome

def completedIds (state : Downloads) : List String :=
  (state.queue.filter fun queued => queued.job.status = .completed).map fun queued => queued.job.id

/-- The destinations that `enqueue_many` hands to `reserve_new_downloads`. -/
def reservedPaths (state : Downloads) : List DownloadPath :=
  (state.queue.filter fun queued =>
    queued.job.direction = .download ∧ queued.job.status ≠ .completed).filterMap fun queued =>
      queued.job.savePath

def enqueue (state : Downloads) (created : List TransferJob) : Option Downloads :=
  if (created.map (·.id)).Nodup ∧ forall job, job ∈ created -> state.find? job.id = none then
    match reserveNewDownloads system state.disk created (created.map (·.id)) state.reservedPaths with
    | .error _ => some state
    | .ok jobs =>
      some { state with queue := state.queue ++ jobs.map fun job => ⟨job, state.completedIds⟩ }
  else none

/-- The job after a change, wherever it stands in the queue. -/
def update (state : Downloads) (id : String) (change : TransferJob -> TransferJob) :
    List QueuedDownload :=
  state.queue.map fun queued =>
    if queued.job.id = id then { queued with job := change queued.job } else queued

/-- The owners of the files that are gone. -/
def lost (before after : Disk) : List FileOwner :=
  (before.filter fun file => file ∉ after).map (·.owner)

/-- The owners of the files that collide with a destination. -/
def colliding (disk : Disk) (path : DownloadPath) : List FileOwner :=
  match system.canonicalize path.directory with
  | none => []
  | some directory =>
    (disk.filter fun file =>
      file.directory = directory ∧ system.lowercase file.name = system.lowercase path.name).map (·.owner)

/-- An attempt to publish a download leaves this disk. -/
def leave (state : Downloads) (id : String) (disk : Disk) : Downloads :=
  { state with
    disk := disk
    replaced := (lost state.disk disk).map (id, ·) ++ state.replaced }

/-- The job of a download that ended with a publication. -/
def completed (publication : DownloadPublication) (job : TransferJob) : TransferJob :=
  { job.recordPublication publication with status := .completed }

/-- A download ends with a publication. -/
def complete (state : Downloads) (id : String) (disk : Disk) (destination : DownloadPath)
    (publication : DownloadPublication) : Downloads where
  disk := disk
  queue := state.update id (completed publication)
  replaced := (state.leave id disk).replaced
  skipped :=
    (if publication.outcome = .skipped then (colliding system disk destination).map (id, ·) else []) ++
      state.skipped

/-- The destination of a download that may be published. -/
def destination? (state : Downloads) (id : String) : Option (QueuedDownload × DownloadPath) :=
  ((state.find? id).filter QueuedDownload.runs).bind fun queued =>
    queued.job.savePath.map fun path => (queued, path)

end Downloads

/-- The own name of a download is free, in the listing and when the move is tried. -/
def takesOwnName (disk : Disk) (path : DownloadPath) (meanwhile : List (List Creation)) : Bool :=
  match existingNames system disk path, system.canonicalize path.directory with
  | .ok names, some directory =>
    decide (system.lowercase path.name ∉ names) &&
      !(disk.createAll system (meanwhile.headD [])).holds system directory path.name
  | _, _ => false

/-- None of the numbered names of a destination is one that another download has
reserved to skip or replace. -/
def numberedNamesApart (state : Downloads) (id : String) (path : DownloadPath) : Bool :=
  state.queue.all fun other =>
    decide (other.job.id = id) || !Downloads.QueuedDownload.runs other ||
      decide (other.job.collisionPolicy = .keepBoth) ||
      other.job.savePath.all fun reserved =>
        (List.range' 1 (maxNames - 1)).all fun index =>
          decide ((system.canonicalize path.directory).map
              (fun directory => nameKey system directory (sibling path index).name) ≠
            (system.canonicalize reserved.directory).map
              fun directory => nameKey system directory reserved.name)

/-- A download is not enqueued as one that already failed or was cancelled, and
`KeepBoth` takes its own name or has numbered names that no other one reserved. -/
def keepsReservations (state : Downloads) : DownloadEvent -> Bool
  | .enqueue created => created.all fun job =>
    !(decide (job.direction = .download) && job.ownerId.isSome &&
      decide (job.status = .failed ∨ job.status = .cancelled))
  | .publish id meanwhile _ =>
    (state.destination? id).all fun (queued, path) =>
      decide (queued.job.collisionPolicy ≠ .keepBoth) || takesOwnName system state.disk path meanwhile ||
        numberedNamesApart system state id path
  | _ => true

end Machine

/-! ## The invariant -/

open Downloads (QueuedDownload.runs)

/-- Downloads that run have different keys, and no file of another download that
was queued with one stands in its way, unless that one keeps both. -/
structure Apart (system : FileSystem) (state : Downloads) : Prop where
  ids : (state.queue.map (·.job.id)).Nodup
  keyed : forall queued, queued ∈ state.queue -> QueuedDownload.runs queued = true ->
    (queued.job.key system).isSome = true
  distinct : forall one two, one ∈ state.queue -> two ∈ state.queue -> QueuedDownload.runs one = true ->
    QueuedDownload.runs two = true -> one.job.id ≠ two.job.id ->
    one.job.key system ≠ two.job.key system
  finished : forall file id, file ∈ state.disk -> file.owner = .download id -> id ∈ state.completedIds
  free : forall file id queued, file ∈ state.disk -> file.owner = .download id ->
    queued ∈ state.queue -> QueuedDownload.runs queued = true ->
    queued.job.collisionPolicy ≠ .keepBoth ->
    queued.job.key system = some (nameKey system file.directory file.name) -> id ∈ queued.after
  replaced : forall record, record ∈ state.replaced -> Exists fun queued =>
    queued ∈ state.queue ∧ queued.job.id = record.1 ∧ queued.job.collisionPolicy = .replace ∧
      forall id, record.2 = .download id -> id ≠ record.1 -> id ∈ queued.after
  skipped : forall record, record ∈ state.skipped -> Exists fun queued =>
    queued ∈ state.queue ∧ queued.job.id = record.1 ∧
      forall id, record.2 = .download id -> id ≠ record.1 -> id ∈ queued.after

section Steps

variable {system : FileSystem} {state next : Downloads} {event : DownloadEvent}

variable {queued : QueuedDownload} {id : String}

theorem find?_eq_some (found : state.find? id = some queued) :
    queued ∈ state.queue ∧ queued.job.id = id :=
  ⟨List.mem_of_find?_eq_some found, by simpa using List.find?_some found⟩

variable {path : DownloadPath}

theorem Apart.key (apart : Apart system state)
    (member : queued ∈ state.queue) (runs : QueuedDownload.runs queued = true)
    (save : queued.job.savePath = some path) :
    Exists fun directory => system.canonicalize path.directory = some directory ∧
      queued.job.key system = some (nameKey system directory path.name) := by
  have keyed := apart.keyed queued member runs
  unfold TransferJob.key at keyed ⊢
  rw [save] at keyed ⊢
  cases found : destinationKey system path with
  | error error =>
    rw [Option.bind_some, found] at keyed
    cases keyed
  | ok key =>
    rcases destinationKey_eq_ok found with ⟨directory, canonical, rfl⟩
    refine ⟨directory, canonical, ?_⟩
    rw [Option.bind_some, found]
    rfl

variable {change : TransferJob -> TransferJob}

theorem mem_update (member : queued ∈ state.update id change) : Exists fun before => before ∈ state.queue ∧
      queued.after = before.after ∧ queued.job = if before.job.id = id then change before.job else before.job := by
  rcases List.mem_map.mp member with ⟨before, old, rfl⟩
  refine ⟨before, old, ?_⟩
  split <;> exact ⟨rfl, rfl⟩

theorem update_mem (id : String) (change : TransferJob -> TransferJob) {before : QueuedDownload}
    (member : before ∈ state.queue) : Exists fun queued => queued ∈ state.update id change ∧
      queued.after = before.after ∧ queued.job = if before.job.id = id then change before.job else before.job := by
  refine ⟨_, List.mem_map_of_mem member, ?_⟩
  split <;> exact ⟨rfl, rfl⟩

/-- The changes of a job that keep what the reservations rest on. -/
structure Keeps (change : TransferJob -> TransferJob) : Prop where
  id : forall job, (change job).id = job.id
  policy : forall job, (change job).collisionPolicy = job.collisionPolicy

theorem update_ids (keeps : Keeps change) :
    (state.update id change).map (·.job.id) = state.queue.map (·.job.id) := by
  unfold Downloads.update
  rw [List.map_map]
  refine List.map_congr_left fun queued _ => ?_
  simp only [Function.comp_apply]
  split
  · exact keeps.id _
  · rfl

theorem Apart.update (apart : Apart system state) (keeps : Keeps change)
    (running : forall queued, queued ∈ state.queue -> queued.job.id = id ->
      QueuedDownload.runs { queued with job := change queued.job } = true ->
        QueuedDownload.runs queued = true ∧ (change queued.job).key system = queued.job.key system)
    (completed : forall queued, queued ∈ state.queue -> queued.job.id = id ->
      queued.job.status = .completed -> (change queued.job).status = .completed) :
    Apart system { state with queue := state.update id change } := by
  -- A job of the new queue runs as the one it was, under the same key.
  have before (queued : QueuedDownload) (member : queued ∈ state.update id change) :
      Exists fun old => old ∈ state.queue ∧ queued.after = old.after ∧ queued.job.id = old.job.id ∧
        queued.job.collisionPolicy = old.job.collisionPolicy ∧
        (QueuedDownload.runs queued = true -> QueuedDownload.runs old = true ∧
          queued.job.key system = old.job.key system) := by
    rcases mem_update member with ⟨old, inside, after, job⟩
    refine ⟨old, inside, after, ?_⟩
    rcases queued with ⟨now, later⟩
    change now = _ at job
    subst job
    by_cases same : old.job.id = id
    · rw [if_pos same]
      refine ⟨keeps.id _, keeps.policy _, fun runs => ?_⟩
      exact running old inside same runs
    · rw [if_neg same]
      exact ⟨rfl, rfl, fun runs => ⟨runs, rfl⟩⟩
  have after (old : QueuedDownload) (inside : old ∈ state.queue) : Exists fun queued =>
      queued ∈ state.update id change ∧ queued.job.id = old.job.id ∧
        queued.job.collisionPolicy = old.job.collisionPolicy ∧ queued.after = old.after := by
    rcases update_mem id change inside with ⟨queued, member, after, job⟩
    refine ⟨queued, member, ?_, ?_, after⟩
    · rw [job]
      split
      · exact keeps.id _
      · rfl
    · rw [job]
      split
      · exact keeps.policy _
      · rfl
  refine ⟨?_, ?_, ?_, ?_, ?_, ?_, ?_⟩
  · exact (update_ids keeps).symm ▸ apart.ids
  · intro queued member runs
    rcases before queued member with ⟨old, inside, -, -, -, same⟩
    rw [(same runs).2]
    exact apart.keyed old inside (same runs).1
  · intro one two first second runsOne runsTwo different
    rcases before one first with ⟨oldOne, insideOne, -, idOne, -, sameOne⟩
    rcases before two second with ⟨oldTwo, insideTwo, -, idTwo, -, sameTwo⟩
    rw [(sameOne runsOne).2, (sameTwo runsTwo).2]
    exact apart.distinct oldOne oldTwo insideOne insideTwo (sameOne runsOne).1 (sameTwo runsTwo).1
      (idOne ▸ idTwo ▸ different)
  · intro file owner member owned
    rcases List.mem_map.mp (apart.finished file owner member owned) with ⟨old, inside, rfl⟩
    rcases List.mem_filter.mp inside with ⟨listed, done⟩
    rcases update_mem id change listed with ⟨queued, there, -, job⟩
    refine List.mem_map.mpr ⟨queued, List.mem_filter.mpr ⟨there, decide_eq_true ?_⟩, ?_⟩
    · rw [job]
      split
      next same => exact completed old listed same (of_decide_eq_true done)
      · exact of_decide_eq_true done
    · rw [job]
      split
      · exact keeps.id _
      · rfl
  · intro file owner queued member owned listed runs policy key
    rcases before queued listed with ⟨old, inside, later, -, samePolicy, same⟩
    rw [later]
    exact apart.free file owner old member owned inside (same runs).1 (samePolicy ▸ policy)
      ((same runs).2 ▸ key)
  · intro record member
    rcases apart.replaced record member with ⟨old, inside, its, policy, order⟩
    rcases after old inside with ⟨queued, there, sameId, samePolicy, sameAfter⟩
    exact ⟨queued, there, sameId.trans its, samePolicy.trans policy, sameAfter.symm ▸ order⟩
  · intro record member
    rcases apart.skipped record member with ⟨old, inside, its, order⟩
    rcases after old inside with ⟨queued, there, sameId, -, sameAfter⟩
    exact ⟨queued, there, sameId.trans its, sameAfter.symm ▸ order⟩

theorem reserves_of_runs {created : List TransferJob} {job : TransferJob}
    (condition : keepsReservations system state (.enqueue created) = true)
    (same : job.core ∈ created.map TransferJob.core) (after : List String)
    (runs : QueuedDownload.runs ⟨job, after⟩ = true) :
    job.reserves (created.map (·.id)) = true := by
  rcases List.mem_map.mp same with ⟨original, member, core⟩
  simp only [TransferJob.core, Prod.mk.injEq] at core
  have allowed := List.all_eq_true.mp condition original member
  simp only [QueuedDownload.runs, Bool.and_eq_true, decide_eq_true_eq] at runs
  rw [core.2.1, core.2.2.1, core.2.2.2] at allowed
  have listed : job.id ∈ created.map (·.id) := core.1 ▸ List.mem_map_of_mem member
  simp only [TransferJob.reserves, runs.1.1, runs.2, listed, decide_true, Bool.true_and, Bool.and_true]
  simp only [runs.1.1, runs.2, decide_true, Bool.true_and, Bool.not_eq_true', decide_eq_false_iff_not,
    not_or] at allowed
  cases status : job.status <;> simp_all [TransferStatus.isTerminal]

theorem enqueue_apart (apart : Apart system state) {created : List TransferJob}
    (condition : keepsReservations system state (.enqueue created) = true)
    (moved : state.enqueue system created = some next) : Apart system next := by
  unfold Downloads.enqueue at moved
  split at moved
  next new =>
    split at moved
    · cases moved
      exact apart
    next jobs done =>
      cases moved
      rcases reserveJobs_ok done with ⟨same, fresh, distinct⟩
      have ids : jobs.map (·.id) = created.map (·.id) := by
        have firsts := congrArg (List.map Prod.fst) same
        rw [List.map_map, List.map_map] at firsts
        exact firsts
      have reserves (job : TransferJob) (member : job ∈ jobs)
          (runs : QueuedDownload.runs ⟨job, state.completedIds⟩ = true) :
          job.reserves (created.map (·.id)) = true :=
        reserves_of_runs condition (same ▸ List.mem_map_of_mem member) _ runs
      -- The keys of the queue are among the reserved ones.
      have taken (queued : QueuedDownload) (member : queued ∈ state.queue)
          (runs : QueuedDownload.runs queued = true) (job : TransferJob) (inside : job ∈ jobs)
          (running : QueuedDownload.runs ⟨job, state.completedIds⟩ = true) :
          queued.job.key system ≠ job.key system := by
        rcases fresh job inside (reserves job inside running) with ⟨key, its, absent⟩
        intro equal
        rw [its] at equal
        rcases Option.bind_eq_some_iff.mp equal with ⟨path, save, keyed⟩
        refine absent (List.mem_filterMap.mpr ⟨path, List.mem_filterMap.mpr ⟨queued, ?_, save⟩, keyed⟩)
        simp only [QueuedDownload.runs, Bool.and_eq_true, decide_eq_true_eq] at runs
        exact List.mem_filter.mpr ⟨member, decide_eq_true ⟨runs.1.1, runs.1.2⟩⟩
      refine ⟨?_, ?_, ?_, ?_, ?_, ?_, ?_⟩
      · rw [List.map_append, List.map_map]
        change (_ ++ jobs.map (·.id)).Nodup
        rw [ids]
        refine List.nodup_append.mpr ⟨apart.ids, new.1, ?_⟩
        intro id old other added equal
        rcases List.mem_map.mp added with ⟨job, member, rfl⟩
        rcases List.mem_map.mp old with ⟨queued, listed, rfl⟩
        have unknown := List.find?_eq_none.mp (new.2 job member) queued listed
        exact unknown (decide_eq_true equal)
      · intro queued member runs
        rcases List.mem_append.mp member with old | added
        · exact apart.keyed queued old runs
        · rcases List.mem_map.mp added with ⟨job, inside, rfl⟩
          rcases fresh job inside (reserves job inside runs) with ⟨key, its, -⟩
          exact Option.isSome_iff_exists.mpr ⟨key, its⟩
      · intro one two first second runsOne runsTwo different
        rcases List.mem_append.mp first with oldOne | newOne <;>
          rcases List.mem_append.mp second with oldTwo | newTwo
        · exact apart.distinct one two oldOne oldTwo runsOne runsTwo different
        · rcases List.mem_map.mp newTwo with ⟨job, inside, rfl⟩
          exact taken one oldOne runsOne job inside runsTwo
        · rcases List.mem_map.mp newOne with ⟨job, inside, rfl⟩
          exact (taken two oldTwo runsTwo job inside runsOne).symm
        · rcases List.mem_map.mp newOne with ⟨jobOne, insideOne, rfl⟩
          rcases List.mem_map.mp newTwo with ⟨jobTwo, insideTwo, rfl⟩
          have symmetric : Std.Symm fun one two : TransferJob =>
              one.reserves (created.map (·.id)) = true -> two.reserves (created.map (·.id)) = true ->
                one.key system ≠ two.key system :=
            ⟨fun _ _ apartBoth second first => (apartBoth first second).symm⟩
          refine distinct.forall insideOne insideTwo ?_
            (reserves jobOne insideOne runsOne) (reserves jobTwo insideTwo runsTwo)
          exact fun equal => different (congrArg TransferJob.id equal)
      · intro file id member owned
        have before := apart.finished file id member owned
        unfold Downloads.completedIds at before ⊢
        rw [List.filter_append, List.map_append]
        exact List.mem_append_left _ before
      · intro file id queued member owned listed runs policy key
        rcases List.mem_append.mp listed with old | added
        · exact apart.free file id queued member owned old runs policy key
        · rcases List.mem_map.mp added with ⟨job, inside, rfl⟩
          exact apart.finished file id member owned
      · intro record member
        rcases apart.replaced record member with ⟨queued, listed, rest⟩
        exact ⟨queued, List.mem_append_left _ listed, rest⟩
      · intro record member
        rcases apart.skipped record member with ⟨queued, listed, rest⟩
        exact ⟨queued, List.mem_append_left _ listed, rest⟩
  · cases moved

/-! ## Every run -/

end Steps

/-- A file system that tells all names apart. -/
def sampleSystem : FileSystem where
  canonicalize := some
  lowercase := id
  isBlank name := decide (name = "")
  sameName one two := decide (one = two)
  sameName_refl _ := decide_eq_true rfl
  sameName_lowercase _ _ same := of_decide_eq_true same

end Transfers
end TelegramDrive
