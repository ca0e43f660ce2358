import TelegramDrive.Transfers.Endings

namespace TelegramDrive
namespace Transfers

/-!
# Requests keep the slots sound

A request that is carried out commits new records or deletes rows.  The records
of an enqueued batch are those in memory and new ones.  A new one fits its slot
where no row was forgotten under its id; a removed id takes no record at all.
-/

open Slot

variable {queue : TransferQueue} {next : TransferEngine} {system : FileSystem}

/-! ## New transfers -/

/-- A record of a batch is the one in memory, or the first of its id. -/
def Enqueued (jobs : JobTable) (ids : List String) (job : TransferJob) : Prop :=
  jobs.find? job.id = some job ∨ (jobs.find? job.id = none ∧ job.id ∈ ids)

/-- What the loop over the requests has built. -/
structure Batch (jobs : JobTable) (ids : List String) (changed : List TransferJob) (created : List String) :
    Prop where
  distinct : (changed.map (·.id)).Nodup
  enqueued : forall job, job ∈ changed -> Enqueued jobs ids job
  fresh : forall id, id ∈ created -> jobs.find? id = none

variable {ids created : List String}

theorem Batch.append {jobs : JobTable} {next : List String} {changed : List TransferJob}
    (batch : Batch jobs ids changed created) (job : TransferJob)
    (apart : (changed.any fun other => decide (other.id = job.id)) = false) (enqueued : Enqueued jobs ids job)
    (fresh : forall id, id ∈ next -> jobs.find? id = none) : Batch jobs ids (changed ++ [job]) next where
  distinct := by
    rw [List.map_append]
    apply List.nodup_append.mpr
    refine ⟨batch.distinct, List.nodup_singleton job.id, ?_⟩
    intro one listed two single same
    rcases List.mem_map.mp listed with ⟨other, member, rfl⟩
    rw [List.map_singleton, List.mem_singleton] at single
    have different := List.any_eq_false.mp apart other member
    exact different (decide_eq_true (same.trans single))
  enqueued other member := by
    rcases List.mem_append.mp member with earlier | now
    · exact batch.enqueued other earlier
    · exact List.mem_singleton.mp now ▸ enqueued
  fresh := fresh

variable {now seconds : Int}

theorem records_batch {jobs : JobTable} {position : Int}
    {changed : List TransferJob} {requests : List TransferEnqueueRequest}
    {result : List TransferJob × List String} (batch : Batch jobs ids changed created)
    (listed : forall request, request ∈ requests -> request.id ∈ ids)
    (done : TransferEnqueueRequest.records jobs now position changed created requests = .ok result) :
    Batch jobs ids result.1 result.2 := by
  induction requests generalizing position changed created with
  | nil =>
    cases done
    exact batch
  | cons request requests ih =>
    have later : forall other, other ∈ requests -> other.id ∈ ids :=
      fun other member => listed other (List.mem_cons_of_mem _ member)
    unfold TransferEnqueueRequest.records at done
    split at done
    · cases done
    next apart =>
      have different := Bool.eq_false_iff.mpr apart
      split at done
      next existing found =>
        split at done
        · cases done
        · have itsId := Table.key_of_find? found
          rw [← itsId] at different found
          exact ih
            (batch.append _ different (Or.inl found) batch.fresh) later done
      next absent =>
        apply ih (batch.append (request.job _ now) different
          (Or.inr ⟨absent, listed request List.mem_cons_self⟩) ?_) later done
        intro id member
        rcases List.mem_append.mp member with earlier | now
        · exact batch.fresh id earlier
        · exact List.mem_singleton.mp now ▸ absent

theorem reserveJobs_records {disk : Disk} {createdIds reserved : List String}
    {jobs result : List TransferJob} (done : reserveJobs system disk createdIds jobs reserved = .ok result) :
    List.Forall₂ (fun job next => next = job ∨ (job.id ∈ createdIds ∧ next.id = job.id)) jobs result := by
  induction jobs generalizing reserved result with
  | nil =>
    cases done
    exact .nil
  | cons job jobs ih =>
    unfold reserveJobs at done
    split at done
    next reserves =>
      have created : job.id ∈ createdIds := by
        unfold TransferJob.reserves at reserves
        simp only [Bool.and_eq_true, decide_eq_true_eq] at reserves
        exact reserves.1.1.2
      split at done
      · cases done
      · split at done
        · cases done
        next path next _ =>
          cases rest : reserveJobs system disk createdIds jobs next with
          | error error =>
            rw [rest] at done
            cases done
          | ok others =>
            rw [rest] at done
            cases done
            exact .cons (Or.inr ⟨created, rfl⟩) (ih rest)
    · cases rest : reserveJobs system disk createdIds jobs reserved with
      | error error =>
        rw [rest] at done
        cases done
      | ok others =>
        rw [rest] at done
        cases done
        exact .cons (Or.inl rfl) (ih rest)

theorem Batch.reserved {jobs : JobTable} {changed result : List TransferJob}
    (batch : Batch jobs ids changed created)
    (same : List.Forall₂ (fun job next => next = job ∨ (job.id ∈ created ∧ next.id = job.id)) changed result) :
    Batch jobs ids result created where
  distinct := by
    have equal : result.map (·.id) = changed.map (·.id) := by
      induction same with
      | nil => rfl
      | cons first rest ih =>
        have tail : Batch jobs ids _ created := {
          distinct := (List.nodup_cons.mp batch.distinct).2
          enqueued := fun job member => batch.enqueued job (List.mem_cons_of_mem _ member)
          fresh := batch.fresh }
        rw [List.map_cons, List.map_cons, ih tail]
        rcases first with rfl | ⟨-, head⟩
        · rfl
        · rw [head]
    rw [equal]
    exact batch.distinct
  enqueued := by
    intro job member
    rcases List.forall₂_iff_get.mp same with ⟨length, each⟩
    rcases List.mem_iff_get.mp member with ⟨place, rfl⟩
    have inside : place.val < changed.length := length.symm ▸ place.isLt
    have before := batch.enqueued (changed.get ⟨place.val, inside⟩) (List.get_mem _ _)
    rcases each place.val inside place.isLt with equal | ⟨created, equal⟩
    · rw [show result.get place = changed.get ⟨place.val, inside⟩ from equal]
      exact before
    · have absent := batch.fresh _ created
      rcases before with found | ⟨-, listed⟩
      · cases absent.symm.trans found
      · exact Or.inr (by
          rw [show (result.get place).id = (changed.get ⟨place.val, inside⟩).id from equal]
          exact ⟨absent, listed⟩)
  fresh := batch.fresh

variable {session : SessionReading} {failure : Option String}

theorem enqueueMany_sound (sound : queue.Sound) {requests : List TransferEnqueueRequest}
    {disk : Disk}
    (fresh : queue.enqueuesFresh (.enqueue requests session disk now failure) = true)
    (done : queue.engine.enqueueMany system requests session disk now failure = .ok next) :
    TransferQueue.Sound { queue with engine := next } := by
  unfold TransferEngine.enqueueMany at done
  rcases Results.bind_ok done with ⟨owner, -, checked⟩
  rcases Results.bind_ok checked with ⟨-, -, built⟩
  rcases Results.bind_ok built with ⟨⟨changed, created⟩, recorded, named⟩
  rcases Results.bind_ok named with ⟨final, reserved, validated⟩
  rcases Results.bind_ok validated with ⟨-, -, committed⟩
  have start : Batch queue.engine.jobs (requests.map (·.id)) [] [] :=
    ⟨List.nodup_nil, fun _ member => absurd member List.not_mem_nil,
      fun _ member => absurd member List.not_mem_nil⟩
  have batch := (records_batch start (fun request member => List.mem_map_of_mem member) recorded).reserved
    (reserveJobs_records reserved)
  have commits := commitJobs_ok committed
  apply commits.sound sound
  · intro one first two second same
    exact List.inj_on_of_nodup_map batch.distinct first second same
  · intro job member
    rcases batch.enqueued job member with found | ⟨absent, listed⟩
    · rcases (sound job.id).stored job found with ⟨row, stands, rowOf⟩
      constructor
      · intro other there
        cases stands.symm.trans there
        exact rowOf.revision
      · intro pending waiting
        rcases (sound job.id).copied pending waiting with ⟨copy, there, copyOf⟩
        cases found.symm.trans there
        exact copyOf
      · exact fun runs => (sound job.id).owned runs job found
      · exact fun succeeded => (sound job.id).completed succeeded job found
    · have clear := commits.store.unburied job member
      have forgotten : queue.engine.store.rows.find? job.id = none := by
        rcases List.mem_map.mp listed with ⟨request, inside, same⟩
        have either := List.all_eq_true.mp fresh request inside
        rw [same, absent] at either
        exact Option.isNone_iff_eq_none.mp either
      -- An id without a job, a row or a tombstone was never accounted for.
      have unaccounted : ¬ ((queue.slot job.id).operating ∨ (queue.slot job.id).succeeded) := by
        intro either
        rcases (sound job.id).accounted either with row | tombstone
        · change (queue.engine.store.rows.find? job.id).isSome = true at row
          rw [forgotten] at row
          cases row
        · change (queue.engine.store.tombstones.find? job.id).isSome = true at tombstone
          rw [clear] at tombstone
          cases tombstone
      constructor
      · intro row there
        cases forgotten.symm.trans there
      · intro pending waiting
        cases ((sound job.id).pending_none_of_absent absent).symm.trans waiting
      · exact fun runs => absurd (Or.inl runs) unaccounted
      · exact fun succeeded => absurd (Or.inr succeeded) unaccounted

/-! ## Actions on one transfer -/

theorem actOn_same {job acted : TransferJob} {action : TransferAction}
    (done : TransferEngine.actOn job action = some acted) :
    acted.id = job.id ∧ acted.ownerId = job.ownerId ∧ acted.revision = job.revision ∧
      job.status ≠ .completed := by
  unfold TransferEngine.actOn at done
  cases action with
  | pause | cancel =>
    simp only at done
    split at done
    · cases done
    next unended =>
      cases done
      exact ⟨rfl, rfl, rfl, fun completed => unended (completed ▸ rfl)⟩
  | resume =>
    simp only at done
    split at done
    next paused =>
      cases done
      refine ⟨rfl, rfl, rfl, ?_⟩
      rw [paused]
      decide
    · cases done
  | retry =>
    simp only at done
    split at done
    next ended =>
      cases done
      refine ⟨rfl, rfl, rfl, ?_⟩
      intro completed
      rw [completed] at ended
      revert ended
      decide
    · cases done

theorem transition_sound (sound : queue.Sound) {id : String} {action : TransferAction}
    {expected : Option String}
    {asked : Bool}
    (done : queue.engine.transition id action session expected now failure = .ok (next, asked)) :
    TransferQueue.Sound { queue with engine := next } := by
  unfold TransferEngine.transition at done
  rcases Results.bind_ok done with ⟨owner, -, rest⟩
  split at rest
  · cases rest
  next job found =>
    split at rest
    · cases rest
    next owned =>
      have its : job.ownerId = some owner := Classical.not_not.mp owned
      split at rest
      next pending waiting =>
        rcases Results.bind_ok rest with ⟨-, -, saved⟩
        rcases Results.bind_ok saved with ⟨later, committed, final⟩
        cases final
        have itsId := Table.key_of_find? waiting
        subst itsId
        exact commitPending_sound sound waiting found committed
      next waits =>
        split at rest
        · cases rest
          exact sound
        next acted applied =>
          rcases Results.bind_ok rest with ⟨-, -, saved⟩
          rcases Results.bind_ok saved with ⟨later, committed, final⟩
          cases final
          rcases actOn_same applied with ⟨sameId, sameOwner, revision, unfinished⟩
          have itsId := Table.key_of_find? found
          subst itsId
          have commits := commitJobs_ok committed
          apply commits.sound sound (agree_singleton _)
          intro record member
          cases List.mem_singleton.mp member
          simp only
          rw [sameId]
          rcases (sound job.id).stored job found with ⟨row, stands, rowOf⟩
          constructor
          · intro other there
            cases stands.symm.trans there
            change row.revision ≤ nextRevision acted.revision
            rw [revision]
            exact rowOf.revision.trans (le_nextRevision job.revision)
          · intro pending waiting
            cases waits.symm.trans waiting
          · intro _
            change acted.ownerId.isSome = true
            rw [sameOwner, its]
            rfl
          · exact fun succeeded =>
              absurd ((sound job.id).completed succeeded job found) unfinished

/-! ## Transfers that nobody owns -/

theorem adoptLegacy_ok {job adopted : TransferJob} {owner : String}
    (done : TransferEngine.adoptLegacy job owner now = .ok adopted) :
    job.ownerId = none ∧ adopted.id = job.id ∧ adopted.ownerId = some owner ∧
      adopted.revision = nextRevision job.revision ∧
      (job.status = .completed -> adopted.status = .completed) := by
  unfold TransferEngine.adoptLegacy at done
  split at done
  · cases done
  next unowned =>
    split at done
    · cases done
    · cases done
      exact ⟨Option.not_isSome_iff_eq_none.mp unowned, rfl, rfl, rfl, fun completed => if_pos completed⟩

theorem adoptAll_sound (sound : queue.Sound) {owner : String} {confirmed : Bool}
    (done : queue.engine.adoptAll owner ids confirmed session now failure = .ok next) :
    TransferQueue.Sound { queue with engine := next } := by
  unfold TransferEngine.adoptAll at done
  rw [if_neg fun unconfirmed => by
    rw [if_pos unconfirmed] at done
    cases done] at done
  rcases Results.bind_ok done with ⟨-, -, reviewed⟩
  rcases Results.bind_ok reviewed with ⟨updates, built, validated⟩
  rcases Results.bind_ok validated with ⟨-, -, committed⟩
  have commits := commitJobs_ok committed
  have source : forall update, update ∈ updates -> Exists fun job =>
      queue.engine.jobs.find? update.id = some job ∧
        TransferEngine.adoptLegacy job owner now = .ok update := by
    intro update member
    rcases List.forall₂_iff_get.mp (Results.mapM_ok built) with ⟨length, each⟩
    rcases List.mem_iff_get.mp member with ⟨place, rfl⟩
    have reached := each place.val (length.symm ▸ place.isLt) place.isLt
    split at reached
    · cases reached
    next job found =>
      refine ⟨job, ?_, reached⟩
      rw [show updates.get ⟨place.val, place.isLt⟩ = updates.get place from rfl] at reached
      rw [(adoptLegacy_ok reached).2.1, Table.key_of_find? found]
      exact found
  apply commits.sound sound
  · intro one first two second same
    rcases source one first with ⟨job, found, adopted⟩
    rcases source two second with ⟨other, listed, also⟩
    rw [← same, found] at listed
    cases listed
    exact Except.ok.inj (adopted.symm.trans also)
  · intro update member
    rcases source update member with ⟨job, found, adopted⟩
    rcases adoptLegacy_ok adopted with ⟨unowned, -, owned, revision, completed⟩
    rcases (sound update.id).stored job found with ⟨row, stands, rowOf⟩
    constructor
    · intro other there
      cases stands.symm.trans there
      rw [revision]
      exact rowOf.revision.trans (le_nextRevision job.revision)
    · intro pending waiting
      rcases (sound update.id).copied pending waiting with ⟨copy, there, copyOf⟩
      cases found.symm.trans there
      have owned := (sound update.id).copyOwned pending waiting
      rw [← copyOf.ownerId, unowned] at owned
      cases owned
    · intro _
      rw [owned]
      rfl
    · exact fun succeeded => completed ((sound update.id).completed succeeded job found)

/-! ## Removed records -/

theorem mem_deleted {before after : TransferStore} {time : Int} {id : String}
    (member : (id, time) ∈ TransferQueue.deleted before after seconds) :
    time = seconds ∧ (before.rows.find? id).isSome = true ∧ after.rows.find? id = none := by
  unfold TransferQueue.deleted at member
  rcases List.mem_map.mp member with ⟨other, listed, same⟩
  cases same
  rcases List.mem_filter.mp listed with ⟨inside, gone⟩
  exact ⟨rfl, Table.find?_isSome.mpr inside, Option.isNone_iff_eq_none.mp gone⟩

/-- The deletion of records of jobs in memory keeps every slot sound, and buries the ids. -/
theorem deleted_sound (sound : queue.Sound) {store : TransferStore}
    (deleted : Deleted queue.engine.store store ids seconds)
    (present : forall id, id ∈ ids -> (queue.engine.jobs.find? id).isSome = true)
    (waits : forall id, id ∈ ids -> queue.engine.pendingCommits.find? id = none) :
    (queue.remove seconds { queue.engine with
      store := store
      jobs := queue.engine.jobs.eraseAll ids }).Sound := by
  intro id
  by_cases listed : id ∈ ids
  · rcases Option.isSome_iff_exists.mp (present id listed) with ⟨job, found⟩
    have clear := (sound id).unburied found
    have buried := (sound id).bury id seconds clear
    have slotted : (queue.remove seconds { queue.engine with
        store := store
        jobs := queue.engine.jobs.eraseAll ids }).slot id =
        { queue.slot id with
          row := none
          tombstone := some ⟨id, some seconds⟩
          job := none
          pending := none
          retained := fun time =>
            (id, time) ∈ TransferQueue.deleted queue.engine.store store seconds ++ queue.retained } := by
      change queue.engine.store.tombstones.find? id = none at clear
      simp only [TransferQueue.slot, TransferQueue.remove, deleted.rows, deleted.tombstones,
        Table.find?_eraseAll, listed, clear, waits id listed, and_self, if_true]
    rw [slotted]
    apply buried.weaken (fun now => now) (fun now => now)
    intro time retained
    rcases List.mem_append.mp retained with now | earlier
    · exact Or.inl (mem_deleted now).1
    · exact Or.inr earlier
  · have slotted : (queue.remove seconds { queue.engine with
        store := store
        jobs := queue.engine.jobs.eraseAll ids }).slot id =
        { queue.slot id with
          retained := fun time =>
            (id, time) ∈ TransferQueue.deleted queue.engine.store store seconds ++ queue.retained } := by
      simp only [TransferQueue.slot, TransferQueue.remove, deleted.rows, deleted.tombstones,
        Table.find?_eraseAll, listed, if_false, false_and]
    rw [slotted]
    apply (sound id).weaken (fun now => now) (fun now => now)
    intro time retained
    rcases List.mem_append.mp retained with now | earlier
    · rcases mem_deleted now with ⟨-, stood, gone⟩
      rw [deleted.rows, if_neg listed] at gone
      rw [gone] at stood
      cases stood
    · exact earlier

theorem remove_sound (seconds : Int) (sound : TransferQueue.Sound { queue with engine := next })
    (store : next.store = queue.engine.store) : (queue.remove seconds next).Sound := by
  intro id
  apply (sound id).weaken (fun now => now) (fun now => now)
  intro time retained
  rcases List.mem_append.mp retained with now | earlier
  · rcases mem_deleted now with ⟨-, stood, gone⟩
    rw [store] at gone
    rw [gone] at stood
    cases stood
  · exact earlier

theorem withdraw_sound (sound : queue.Sound) (id : String) (seconds : Int) (failure : Option String) :
    (queue.remove seconds (queue.engine.withdraw id seconds failure).1).Sound := by
  have forgetting := sound_forgetting sound id
  unfold TransferEngine.withdraw
  simp only
  split
  · exact remove_sound seconds forgetting rfl
  next job found =>
    split
    · refine remove_sound seconds ?_ rfl
      intro other
      have slotted : ({ queue with engine := { queue.engine with
          jobs := queue.engine.jobs.erase id
          pendingCommits := queue.engine.pendingCommits.erase id } } : TransferQueue).slot other =
          if other = id then { queue.slot other with job := none, pending := none }
          else queue.slot other := by
        split
        next same => simp only [TransferQueue.slot, Table.find?_erase, same, if_true]
        next apart => simp only [TransferQueue.slot, Table.find?_erase, if_neg apart]
      rw [slotted]
      split
      · exact (sound other).forget
      · exact sound other
    next store gone =>
      apply deleted_sound forgetting (deleteMany_ok gone)
      · intro other member
        rw [List.mem_singleton.mp member]
        exact Option.isSome_iff_exists.mpr ⟨job, found⟩
      · intro other member
        rw [List.mem_singleton.mp member]
        exact (Table.find?_erase _ _ _).trans (if_pos rfl)

theorem clearTerminal_sound (sound : queue.Sound) {direction : TransferDirection}
    {includeFailedAndCancelled : Bool} {expected : Option String}
    (done : queue.engine.clearTerminal direction includeFailedAndCancelled session expected seconds failure =
      .ok next) : (queue.remove seconds next).Sound := by
  unfold TransferEngine.clearTerminal at done
  rcases Results.bind_ok done with ⟨owner, -, validated⟩
  rcases Results.bind_ok validated with ⟨-, -, removed⟩
  rcases Results.bind_ok removed with ⟨store, gone, final⟩
  cases final
  have source : forall id, id ∈ queue.engine.clearedIds owner direction includeFailedAndCancelled ->
      Exists fun job => queue.engine.jobs.find? id = some job ∧ job.persistencePending = false := by
    intro id member
    rcases List.mem_map.mp member with ⟨job, inside, rfl⟩
    rcases List.mem_filter.mp inside with ⟨listed, able⟩
    simp only [Bool.and_eq_true, Bool.not_eq_true'] at able
    exact ⟨job, Table.find?_of_mem listed, able.1.1.2⟩
  apply deleted_sound sound (deleteMany_ok gone)
  · intro id member
    rcases source id member with ⟨job, found, -⟩
    exact Option.isSome_iff_exists.mpr ⟨job, found⟩
  · intro id member
    rcases source id member with ⟨job, found, saved⟩
    exact (sound id).pending_none found saved

theorem discardLegacy_sound (sound : queue.Sound) {owner : String}
    (done : queue.engine.discardLegacy owner ids session seconds failure = .ok next) :
    (queue.remove seconds next).Sound := by
  unfold TransferEngine.discardLegacy at done
  rcases Results.bind_ok done with ⟨-, -, checked⟩
  have unowned : ¬ (ids.any fun id =>
      (queue.engine.jobs.find? id).all fun job => job.ownerId.isSome) = true := by
    intro owned
    rw [if_pos owned] at checked
    cases checked
  rw [if_neg unowned] at checked
  rcases Results.bind_ok checked with ⟨-, -, removed⟩
  rcases Results.bind_ok removed with ⟨store, gone, final⟩
  cases final
  have source : forall id, id ∈ ids -> Exists fun job =>
      queue.engine.jobs.find? id = some job ∧ job.ownerId = none := by
    intro id member
    have mine := List.any_eq_false.mp (Bool.eq_false_iff.mpr unowned) id member
    cases found : queue.engine.jobs.find? id with
    | none =>
      rw [found] at mine
      exact absurd rfl mine
    | some job =>
      rw [found] at mine
      exact ⟨job, rfl, Option.not_isSome_iff_eq_none.mp mine⟩
  apply deleted_sound sound (deleteMany_ok gone)
  · intro id member
    rcases source id member with ⟨job, found, -⟩
    exact Option.isSome_iff_exists.mpr ⟨job, found⟩
  · intro id member
    rcases source id member with ⟨job, found, unowned⟩
    apply Option.eq_none_iff_forall_ne_some.mpr
    intro pending waiting
    rcases (sound id).copied pending waiting with ⟨copy, listed, copyOf⟩
    cases found.symm.trans listed
    have owned := (sound id).copyOwned pending waiting
    rw [← copyOf.ownerId, unowned] at owned
    cases owned

end Transfers
end TelegramDrive
