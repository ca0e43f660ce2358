import TelegramDrive.Transfers.Records

namespace TelegramDrive
namespace Transfers

/-!
# The queue across starts

A start may stop at any of its writes.  Whatever it has done by then, it has
added no row, lowered no revision and dropped no tombstone within its retention.
A start that gets through has exactly the rows without a supervisor in memory,
recovered, and each of them in the database as it is in memory.
-/

open Slot

variable {queue : TransferQueue} {store next : TransferStore}

/-! ## Any part of the writes of a start -/

/-- What any part of the writes of a start leaves. -/
structure StartedFrom (store next : TransferStore) (seconds : Int) : Prop where
  rows : forall id later, next.rows.find? id = some later ->
    Exists fun row => store.rows.find? id = some row ∧ row.revision ≤ later.revision
  unburied : forall id, store.tombstones.find? id = none -> next.tombstones.find? id = none
  retained : forall id tombstone time, store.tombstones.find? id = some tombstone ->
    tombstone.removedAt = some time -> seconds - tombstoneRetentionSecs ≤ time ->
    Exists fun later => next.tombstones.find? id = some later ∧ later.removedAt = some time

theorem StartedFrom.refl (store : TransferStore) (seconds : Int) : StartedFrom store store seconds where
  rows _ later found := ⟨later, found, Nat.le_refl _⟩
  unburied _ absent := absent
  retained _ tombstone _ found dated _ := ⟨tombstone, found, dated⟩

variable {seconds now : Int}

theorem StartedFrom.trans {middle : TransferStore} (first : StartedFrom store middle seconds)
    (second : StartedFrom middle next seconds) : StartedFrom store next seconds where
  rows id later found := by
    rcases second.rows id later found with ⟨between, listed, further⟩
    rcases first.rows id between listed with ⟨row, stood, order⟩
    exact ⟨row, stood, order.trans further⟩
  unburied id absent := second.unburied id (first.unburied id absent)
  retained id tombstone time found dated recent := by
    rcases first.retained id tombstone time found dated recent with ⟨between, listed, same⟩
    exact second.retained id between time listed same recent

theorem dateTombstones_from (store : TransferStore) (seconds : Int) :
    StartedFrom store (store.dateTombstones seconds) seconds where
  rows _ later found := ⟨later, found, Nat.le_refl _⟩
  unburied id absent := by
    simp only [TransferStore.dateTombstones, Table.find?_filterMap, absent, Option.bind_none]
  retained id tombstone time found dated _ := by
    refine ⟨{ tombstone with removedAt := some time }, ?_, rfl⟩
    simp only [TransferStore.dateTombstones, Table.find?_filterMap, found, Option.bind_some, dated,
      Option.getD_some]

theorem dropTombstones_from (store : TransferStore) (seconds : Int) :
    StartedFrom store (store.dropTombstones seconds) seconds where
  rows _ later found := ⟨later, found, Nat.le_refl _⟩
  unburied id absent := by
    simp only [TransferStore.dropTombstones, Table.find?_filterMap, absent, Option.bind_none]
  retained id tombstone time found dated recent := by
    have kept : TransferStore.Tombstone.expired tombstone seconds = false := by
      unfold TransferStore.Tombstone.expired
      rw [dated, Option.any_some]
      exact decide_eq_false (not_lt.mpr recent)
    refine ⟨tombstone, ?_, dated⟩
    simp only [TransferStore.dropTombstones, Table.find?_filterMap, found, Option.bind_some, kept,
      Bool.false_eq_true, if_false]

theorem remove_from (store : TransferStore) (id : String) (seconds : Int) :
    StartedFrom store { store with rows := store.rows.erase id } seconds where
  rows other later found := by
    change (store.rows.erase id).find? other = some later at found
    rw [Table.find?_erase] at found
    split at found
    · cases found
    · exact ⟨later, found, Nat.le_refl _⟩
  unburied _ absent := absent
  retained _ tombstone _ found dated _ := ⟨tombstone, found, dated⟩

theorem save_from {job : TransferJob} (upserted : Upserted store next job)
    (present : (store.rows.find? job.id).isSome = true) (seconds : Int) :
    StartedFrom store next seconds where
  rows id later found := by
    by_cases same : job.id = id
    · subst same
      rcases Option.isSome_iff_exists.mp present with ⟨row, stood⟩
      rcases upserted.grows job.id row stood with ⟨other, listed, order⟩
      cases found.symm.trans listed
      exact ⟨row, stood, order⟩
    · rw [upserted.others id same] at found
      exact ⟨later, found, Nat.le_refl _⟩
  unburied id absent := upserted.tombstones ▸ absent
  retained id tombstone _ found dated _ := ⟨tombstone, upserted.tombstones ▸ found, dated⟩

/-- The writes of a start: every saved job has a row that is not removed, and the
tombstones are judged by one reading of the clock. -/
structure StartPlan (store : TransferStore) (writes : List StartWrite) (seconds : Int) : Prop where
  present : forall job, .save job ∈ writes -> (store.rows.find? job.id).isSome = true
  apart : forall job, .save job ∈ writes -> .remove job.id ∉ writes
  dated : forall now, .dateTombstones now ∈ writes -> now = seconds
  dropped : forall now, .dropTombstones now ∈ writes -> now = seconds

theorem StartPlan.step {write : StartWrite} {writes : List StartWrite}
    (plan : StartPlan store (write :: writes) seconds) (done : store.applyStart write = .ok next) :
    StartedFrom store next seconds ∧ StartPlan next writes seconds := by
  have rest : (forall job, .save job ∈ writes -> (next.rows.find? job.id).isSome = true) ->
      StartPlan next writes seconds := fun present => {
    present := present
    apart := fun job member removed =>
      plan.apart job (List.mem_cons_of_mem _ member) (List.mem_cons_of_mem _ removed)
    dated := fun now member => plan.dated now (List.mem_cons_of_mem _ member)
    dropped := fun now member => plan.dropped now (List.mem_cons_of_mem _ member) }
  have before : forall job, .save job ∈ writes -> (store.rows.find? job.id).isSome = true :=
    fun job member => plan.present job (List.mem_cons_of_mem _ member)
  cases write with
  | dateTombstones now =>
    cases done
    refine ⟨?_, rest before⟩
    rw [plan.dated now List.mem_cons_self]
    exact dateTombstones_from store seconds
  | dropTombstones now =>
    cases done
    refine ⟨?_, rest before⟩
    rw [plan.dropped now List.mem_cons_self]
    exact dropTombstones_from store seconds
  | remove id =>
    cases done
    refine ⟨remove_from store id seconds, rest ?_⟩
    intro job member
    have different : job.id ≠ id := fun same =>
      plan.apart job (List.mem_cons_of_mem _ member) (same ▸ List.mem_cons_self)
    rw [Table.find?_erase, if_neg different]
    exact before job member
  | save saved =>
    have upserted := upsert_ok done
    refine ⟨save_from upserted (plan.present saved List.mem_cons_self) seconds, rest ?_⟩
    intro job member
    rcases Option.isSome_iff_exists.mp (before job member) with ⟨row, found⟩
    rcases upserted.grows job.id row found with ⟨later, listed, -⟩
    exact Option.isSome_iff_exists.mpr ⟨later, listed⟩

theorem StartPlan.run {writes : List StartWrite} (plan : StartPlan store writes seconds) :
    StartedFrom store (store.applyStarts writes).1 seconds := by
  induction writes generalizing store with
  | nil => exact .refl store seconds
  | cons write writes ih =>
    unfold TransferStore.applyStarts
    split
    · exact .refl store seconds
    next next done =>
      rcases plan.step done with ⟨first, rest⟩
      exact first.trans (ih rest)

/-! ## All the writes of a start -/

/-- What all the writes of a start leave of the rows. -/
structure StartedRows (store next : TransferStore) (writes : List StartWrite) : Prop where
  removed : forall id, .remove id ∈ writes -> next.rows.find? id = none
  saved : forall job, .save job ∈ writes -> next.rows.find? job.id = some job
  others : forall id, .remove id ∉ writes -> (forall job, .save job ∈ writes -> job.id ≠ id) ->
    next.rows.find? id = store.rows.find? id

theorem StartPlan.rows {writes : List StartWrite} (plan : StartPlan store writes seconds)
    (agree : forall one two, .save one ∈ writes -> .save two ∈ writes -> one.id = two.id -> one = two)
    (newer : forall job, .save job ∈ writes -> forall row, store.rows.find? job.id = some row ->
      row.revision ≤ job.revision)
    (done : (store.applyStarts writes).2 = true) :
    StartedRows store (store.applyStarts writes).1 writes := by
  induction writes generalizing store with
  | nil =>
    exact ⟨fun _ member => absurd member List.not_mem_nil, fun _ member => absurd member List.not_mem_nil,
      fun _ _ _ => rfl⟩
  | cons write writes ih =>
    unfold TransferStore.applyStarts at done ⊢
    cases applied : store.applyStart write with
    | error error =>
      rw [applied] at done
      cases done
    | ok middle =>
      rw [applied] at done
      have restPlan := (plan.step applied).2
      have agreeRest : forall one two, .save one ∈ writes -> .save two ∈ writes ->
          one.id = two.id -> one = two := fun one two first second =>
        agree one two (List.mem_cons_of_mem _ first) (List.mem_cons_of_mem _ second)
      cases write with
      | dateTombstones now | dropTombstones now =>
        cases applied
        have rest := ih restPlan agreeRest
          (fun job member => newer job (List.mem_cons_of_mem _ member)) done
        refine ⟨?_, ?_, ?_⟩
        · exact fun id member => rest.removed id (by simpa using member)
        · exact fun job member => rest.saved job (by simpa using member)
        · intro id kept apart
          exact rest.others id (fun member => kept (List.mem_cons_of_mem _ member))
            fun job member => apart job (List.mem_cons_of_mem _ member)
      | remove gone =>
        cases applied
        have newerRest : forall job, .save job ∈ writes -> forall row,
            (store.rows.erase gone).find? job.id = some row -> row.revision ≤ job.revision := by
          intro job member row found
          rw [Table.find?_erase] at found
          split at found
          · cases found
          · exact newer job (List.mem_cons_of_mem _ member) row found
        have rest := ih restPlan agreeRest newerRest done
        refine ⟨?_, ?_, ?_⟩
        · intro id member
          by_cases again : .remove id ∈ writes
          · exact rest.removed id again
          · have same : id = gone := by simpa [again] using member
            subst same
            rw [rest.others id again fun job saved equal =>
              plan.apart job (List.mem_cons_of_mem _ saved) (equal ▸ List.mem_cons_self)]
            exact (Table.find?_erase _ _ _).trans (if_pos rfl)
        · exact fun job member => rest.saved job (by simpa using member)
        · intro id kept apart
          rw [rest.others id (fun member => kept (List.mem_cons_of_mem _ member))
            fun job member => apart job (List.mem_cons_of_mem _ member)]
          apply (Table.find?_erase _ _ _).trans
          exact if_neg fun same : id = gone => kept (same ▸ List.mem_cons_self)
      | save first =>
        have upserted := upsert_ok applied
        have written := upserted.written (newer first List.mem_cons_self)
        have newerRest : forall job, .save job ∈ writes -> forall row,
            middle.rows.find? job.id = some row -> row.revision ≤ job.revision := by
          intro job member row found
          by_cases same : first.id = job.id
          · rw [← same, written] at found
            cases found
            rw [agree first job List.mem_cons_self (List.mem_cons_of_mem _ member) same]
          · rw [upserted.others job.id same] at found
            exact newer job (List.mem_cons_of_mem _ member) row found
        have rest := ih restPlan agreeRest newerRest done
        refine ⟨?_, ?_, ?_⟩
        · exact fun id member => rest.removed id (by simpa using member)
        · intro job member
          by_cases again : .save job ∈ writes
          · exact rest.saved job again
          · have same : job = first := by simpa [again] using member
            subst same
            rw [rest.others job.id (fun removed =>
              plan.apart job List.mem_cons_self (List.mem_cons_of_mem _ removed)) ?_]
            · exact written
            · intro other inside equal
              exact again (agree other job (List.mem_cons_of_mem _ inside) List.mem_cons_self equal ▸ inside)
        · intro id kept apart
          rw [rest.others id (fun member => kept (List.mem_cons_of_mem _ member))
            fun job member => apart job (List.mem_cons_of_mem _ member)]
          exact upserted.others id (apart first List.mem_cons_self)

/-! ## The plan of a start -/

theorem mem_loadAll {job : TransferJob} :
    job ∈ store.loadAll ↔ store.rows.find? job.id = some job := by
  unfold TransferStore.loadAll
  rw [(List.perm_insertionSort _ _).mem_iff]
  constructor
  · exact Table.find?_of_mem
  · exact fun found => (Table.find?_eq_some.mp found).1

theorem loadAll_distinct (store : TransferStore) : (store.loadAll.map (·.id)).Nodup :=
  ((List.perm_insertionSort _ _).map _).nodup_iff.mpr store.rows.distinct

theorem recoverAfterRestart_same (job : TransferJob) (now : Int) :
    (recoverAfterRestart job now).id = job.id ∧ (recoverAfterRestart job now).origin = job.origin ∧
      (recoverAfterRestart job now).ownerId = job.ownerId ∧
      job.revision ≤ (recoverAfterRestart job now).revision := by
  unfold recoverAfterRestart
  split
  · exact ⟨rfl, rfl, rfl, le_nextRevision job.revision⟩
  · exact ⟨rfl, rfl, rfl, Nat.le_refl _⟩

theorem mem_startWrites_save {job : TransferJob} :
    .save job ∈ store.startWrites now seconds ↔ Exists fun row => row ∈ store.loadAll ∧
      row.origin = none ∧ row.interrupted = true ∧ recoverAfterRestart row now = job := by
  simp [TransferStore.startWrites, and_assoc]

theorem mem_startWrites_remove {id : String} :
    .remove id ∈ store.startWrites now seconds ↔ Exists fun row => row ∈ store.loadAll ∧
      row.origin.isSome = true ∧ row.id = id := by
  simp [TransferStore.startWrites, and_assoc]

theorem startWrites_plan (store : TransferStore) (now seconds : Int) :
    StartPlan store (store.startWrites now seconds) seconds where
  present job member := by
    rcases mem_startWrites_save.mp member with ⟨row, listed, -, -, rfl⟩
    rw [(recoverAfterRestart_same row now).1]
    exact Option.isSome_iff_exists.mpr ⟨row, mem_loadAll.mp listed⟩
  apart job member removed := by
    rcases mem_startWrites_save.mp member with ⟨row, listed, mine, -, rfl⟩
    rcases mem_startWrites_remove.mp removed with ⟨orphan, inside, supervised, same⟩
    rw [(recoverAfterRestart_same row now).1] at same
    have found := mem_loadAll.mp inside
    rw [same, mem_loadAll.mp listed] at found
    cases found
    rw [mine] at supervised
    cases supervised
  dated other member := by simpa [TransferStore.startWrites] using member
  dropped other member := by simpa [TransferStore.startWrites] using member

theorem StartPlan.subset {writes part : List StartWrite}
    (plan : StartPlan store writes seconds) (subset : part ⊆ writes) : StartPlan store part seconds where
  present job member := plan.present job (subset member)
  apart job member removed := plan.apart job (subset member) (subset removed)
  dated now member := plan.dated now (subset member)
  dropped now member := plan.dropped now (subset member)

theorem openStore_from (store : TransferStore) (now seconds : Int) (stops : Option Nat) :
    StartedFrom store (store.openStore now seconds stops).1 seconds := by
  have plan := startWrites_plan store now seconds
  unfold TransferStore.openStore
  split
  · exact (plan.subset (List.take_subset _ _)).run
  · exact plan.run

/-- The rows of a start that gets through, one by one. -/
theorem openStore_rows {stops : Option Nat} {jobs : List TransferJob}
    (done : (store.openStore now seconds stops).2 = some jobs) :
    jobs = store.startJobs now ∧
      forall row, row ∈ store.loadAll -> row.origin = none ->
        (store.openStore now seconds stops).1.rows.find? row.id = some (recoverAfterRestart row now) := by
  unfold TransferStore.openStore at done ⊢
  cases stops with
  | some stops => cases done
  | none =>
    simp only at done ⊢
    split at done
    next all =>
      cases done
      refine ⟨rfl, ?_⟩
      have agree : forall one two, .save one ∈ store.startWrites now seconds ->
          .save two ∈ store.startWrites now seconds -> one.id = two.id -> one = two := by
        intro one two first second same
        rcases mem_startWrites_save.mp first with ⟨row, listed, -, -, rfl⟩
        rcases mem_startWrites_save.mp second with ⟨other, inside, -, -, rfl⟩
        rw [(recoverAfterRestart_same row now).1, (recoverAfterRestart_same other now).1] at same
        have found := mem_loadAll.mp listed
        rw [same, mem_loadAll.mp inside] at found
        cases found
        rfl
      have newer : forall job, .save job ∈ store.startWrites now seconds -> forall row,
          store.rows.find? job.id = some row -> row.revision ≤ job.revision := by
        intro job member row found
        rcases mem_startWrites_save.mp member with ⟨source, listed, -, -, rfl⟩
        rw [(recoverAfterRestart_same source now).1, mem_loadAll.mp listed] at found
        cases found
        exact (recoverAfterRestart_same row now).2.2.2
      have rows := (startWrites_plan store now seconds).rows agree newer all
      intro row listed mine
      have same := (recoverAfterRestart_same row now).1
      by_cases interrupted : row.interrupted = true
      · have saved := rows.saved _ (mem_startWrites_save.mpr ⟨row, listed, mine, interrupted, rfl⟩)
        rw [same] at saved
        exact saved
      · have kept : recoverAfterRestart row now = row := if_neg interrupted
        rw [kept, rows.others row.id ?_ ?_]
        · exact mem_loadAll.mp listed
        · intro removed
          rcases mem_startWrites_remove.mp removed with ⟨orphan, inside, supervised, equal⟩
          have found := mem_loadAll.mp inside
          rw [equal, mem_loadAll.mp listed] at found
          cases found
          rw [mine] at supervised
          cases supervised
        · intro job saved equal
          rcases mem_startWrites_save.mp saved with ⟨other, inside, -, able, rfl⟩
          rw [(recoverAfterRestart_same other now).1] at equal
          have found := mem_loadAll.mp inside
          rw [equal, mem_loadAll.mp listed] at found
          cases found
          exact interrupted able
    · cases done

/-! ## Stops and starts of the queue -/

theorem startJobs_distinct (store : TransferStore) (now : Int) :
    ((store.startJobs now).map (·.id)).Nodup := by
  have same : (store.startJobs now).map (·.id) =
      (store.loadAll.filter fun job => job.origin.isNone).map (·.id) := by
    unfold TransferStore.startJobs
    rw [List.map_map]
    apply List.map_congr_left
    intro job _
    exact (recoverAfterRestart_same job now).1
  rw [same]
  exact (List.filter_sublist.map _).nodup (loadAll_distinct store)

theorem opened_find? {id : String} {job : TransferJob} :
    (TransferEngine.opened next (store.startJobs now)).jobs.find? id = some job ↔
      Exists fun row => row ∈ store.loadAll ∧ row.origin = none ∧ row.id = id ∧
        recoverAfterRestart row now = job := by
  have listed : forall job, job ∈ store.startJobs now ->
      (TransferEngine.opened next (store.startJobs now)).jobs.find? job.id = some job := by
    intro job member
    exact Table.find?_insertAll_of_mem _ member fun other inside same =>
      List.inj_on_of_nodup_map (startJobs_distinct store now) inside member same
  have member : forall row, row ∈ store.loadAll -> row.origin = none ->
      recoverAfterRestart row now ∈ store.startJobs now := by
    intro row inside mine
    apply List.mem_map_of_mem
    exact List.mem_filter.mpr ⟨inside, by rw [mine]; rfl⟩
  constructor
  · intro found
    by_cases present : Exists fun other => other ∈ store.startJobs now ∧ other.id = id
    · rcases present with ⟨other, inside, rfl⟩
      cases (listed other inside).symm.trans found
      rcases List.mem_map.mp inside with ⟨row, filtered, rfl⟩
      rcases List.mem_filter.mp filtered with ⟨loaded, mine⟩
      exact ⟨row, loaded, Option.isNone_iff_eq_none.mp mine, (recoverAfterRestart_same row now).1.symm, rfl⟩
    · have nothing : (TransferEngine.opened next (store.startJobs now)).jobs.find? id = none :=
        Table.find?_insertAll_of_absent _ fun other inside same => present ⟨other, inside, same⟩
      cases nothing.symm.trans found
  · rintro ⟨row, inside, mine, rfl, rfl⟩
    have found := listed _ (member row inside mine)
    rw [(recoverAfterRestart_same row now).1] at found
    exact found

theorem stop_sound (sound : queue.Sound) : queue.stop.Sound := by
  intro id
  have forgotten : Slot.Sound { queue.slot id with
      job := none, pending := none, operating := False, succeeded := False } :=
    (sound id).forget.weaken False.elim False.elim fun _ now => now
  have slotted : queue.stop.slot id = { queue.slot id with
      job := none, pending := none, operating := False, succeeded := False } := by
    simp [TransferQueue.slot, TransferQueue.stop, TransferEngine.opened, Table.insertAll, KeyedUpdates.applyAll]
  rw [slotted]
  exact forgotten

theorem opened_operating (queue : TransferQueue) (store : TransferStore) (jobs : List TransferJob)
    (running : Bool) (retained : List (String × Int)) :
    TransferQueue.Operating { queue.stop with
      engine := TransferEngine.opened store jobs, running := running, retained := retained } where
  matched := .nil
  within _ := Nat.zero_le _

theorem restart_operating (queue : TransferQueue) (now seconds : Int) (stops : Option Nat) :
    (queue.start now seconds stops).Operating := by
  unfold TransferQueue.start
  simp only
  split
  · exact opened_operating queue _ _ _ _
  · exact opened_operating queue _ _ queue.stop.running _

theorem restart_sound (sound : queue.Sound) (now seconds : Int) (stops : Option Nat) :
    (queue.start now seconds stops).Sound := by
  have part := openStore_from queue.engine.store now seconds stops
  have apart : forall id, ((queue.engine.store.openStore now seconds stops).1.rows.find? id).isSome = true ->
      (queue.engine.store.openStore now seconds stops).1.tombstones.find? id = none := by
    intro id stands
    rcases Option.isSome_iff_exists.mp stands with ⟨later, found⟩
    rcases part.rows id later found with ⟨row, stood, -⟩
    exact part.unburied id ((sound id).apart (Option.isSome_iff_exists.mpr ⟨row, stood⟩))
  have buried : forall id time, (id, time) ∈ (queue.retained.filter fun entry =>
      decide (seconds - tombstoneRetentionSecs ≤ entry.2)) -> Exists fun tombstone =>
      (queue.engine.store.openStore now seconds stops).1.tombstones.find? id = some tombstone ∧
        tombstone.removedAt = some time := by
    intro id time member
    rcases List.mem_filter.mp member with ⟨retained, recent⟩
    rcases (sound id).buried time retained with ⟨tombstone, found, dated⟩
    exact part.retained id tombstone time found dated (of_decide_eq_true recent)
  intro id
  unfold TransferQueue.start
  simp only
  split
  next store jobs opened =>
    have rows := openStore_rows (congrArg Prod.snd opened)
    rw [opened] at apart buried rows
    rcases rows with ⟨rfl, saved⟩
    exact {
      apart := apart id
      stored := by
        intro job found
        rcases opened_find?.mp found with ⟨row, loaded, mine, rfl, rfl⟩
        exact ⟨_, saved row loaded mine, .refl _⟩
      copied := fun _ waiting => nomatch waiting
      copyOwned := fun _ waiting => nomatch waiting
      owned := fun runs => absurd runs List.not_mem_nil
      uncopied := fun _ => rfl
      accounted := fun either => either.elim (fun runs => absurd runs List.not_mem_nil)
        fun succeeded => absurd succeeded List.not_mem_nil
      completed := fun succeeded => absurd succeeded List.not_mem_nil
      once := fun runs => absurd runs List.not_mem_nil
      buried := buried id }
  next store opened =>
    rw [opened] at apart buried
    exact {
      apart := apart id
      stored := fun _ found => nomatch found
      copied := fun _ waiting => nomatch waiting
      copyOwned := fun _ waiting => nomatch waiting
      owned := fun runs => absurd runs List.not_mem_nil
      uncopied := fun _ => rfl
      accounted := fun either => either.elim (fun runs => absurd runs List.not_mem_nil)
        fun succeeded => absurd succeeded List.not_mem_nil
      completed := fun succeeded => absurd succeeded List.not_mem_nil
      once := fun runs => absurd runs List.not_mem_nil
      buried := buried id }

end Transfers
end TelegramDrive
