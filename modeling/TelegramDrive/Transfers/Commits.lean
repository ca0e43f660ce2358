import TelegramDrive.Transfers.Queue

namespace TelegramDrive
namespace Transfers

/-!
# What the writes of the queue do

One statement for each write of the database and each commit of the engine, id by
id.  An upsert never lowers a revision.  A commit whose records are at least as
new as their rows stands in the database and in memory afterwards.
-/

variable {store next : TransferStore} {engine : TransferEngine}

theorem le_nextRevision (revision : Nat) : revision ≤ nextRevision revision := by
  unfold nextRevision
  split
  · exact Nat.le_succ revision
  · exact Nat.le_refl revision

/-! ## Upserts -/

/-- The rows of one store are those of another, some of them with later revisions. -/
def RowsGrow (store next : TransferStore) : Prop :=
  forall id row, store.rows.find? id = some row ->
    Exists fun later => next.rows.find? id = some later ∧ row.revision ≤ later.revision

theorem RowsGrow.refl (store : TransferStore) : RowsGrow store store :=
  fun _ row found => ⟨row, found, Nat.le_refl _⟩

theorem RowsGrow.trans {middle : TransferStore} (first : RowsGrow store middle)
    (second : RowsGrow middle next) : RowsGrow store next := by
  intro id row found
  rcases first id row found with ⟨between, listed, order⟩
  rcases second id between listed with ⟨later, final, further⟩
  exact ⟨later, final, order.trans further⟩

/-- An upsert that succeeds. -/
structure Upserted (store next : TransferStore) (job : TransferJob) : Prop where
  tombstones : next.tombstones = store.tombstones
  unburied : store.tombstones.find? job.id = none
  others : forall id, job.id ≠ id -> next.rows.find? id = store.rows.find? id
  written : (forall row, store.rows.find? job.id = some row -> row.revision ≤ job.revision) ->
    next.rows.find? job.id = some job
  grows : RowsGrow store next

theorem insert_upserted {job : TransferJob} (unburied : store.tombstones.find? job.id = none)
    (newer : forall row, store.rows.find? job.id = some row -> row.revision ≤ job.revision) :
    Upserted store { store with rows := store.rows.insert job } job where
  tombstones := rfl
  unburied := unburied
  others id apart := by
    change (store.rows.insert job).find? id = store.rows.find? id
    rw [Table.find?_insert, if_neg fun same => apart same.symm]
  written _ := by
    change (store.rows.insert job).find? job.id = some job
    rw [Table.find?_insert, if_pos rfl]
  grows := by
    intro id row found
    change Exists fun later => (store.rows.insert job).find? id = some later ∧ row.revision ≤ later.revision
    rw [Table.find?_insert]
    split
    next same =>
      subst same
      exact ⟨job, rfl, newer row found⟩
    · exact ⟨row, found, Nat.le_refl _⟩

theorem upsert_ok {job : TransferJob} (done : store.upsert job = .ok next) : Upserted store next job := by
  unfold TransferStore.upsert at done
  split at done
  · cases done
  next clear =>
    have unburied : store.tombstones.find? job.id = none :=
      Option.not_isSome_iff_eq_none.mp clear
    split at done
    · cases done
    · split at done
      next absent =>
        cases done
        apply insert_upserted unburied
        intro row found
        cases absent.symm.trans found
      next row found =>
        split at done
        next newer =>
          cases done
          apply insert_upserted unburied
          intro other listed
          cases found.symm.trans listed
          exact newer
        next older =>
          cases done
          refine ⟨rfl, unburied, fun _ _ => rfl, ?_, .refl store⟩
          intro newer
          exact absurd (newer row found) older

/-- Records of one id in a batch are the same record. -/
def Agree (jobs : List TransferJob) : Prop :=
  forall one, one ∈ jobs -> forall two, two ∈ jobs -> one.id = two.id -> one = two

/-- Every record of a batch is at least as new as its row. -/
def Newer (store : TransferStore) (jobs : List TransferJob) : Prop :=
  forall job, job ∈ jobs -> forall row, store.rows.find? job.id = some row -> row.revision ≤ job.revision

/-- A batch that was written. -/
structure UpsertedAll (store next : TransferStore) (jobs : List TransferJob) : Prop where
  tombstones : next.tombstones = store.tombstones
  unburied : forall job, job ∈ jobs -> store.tombstones.find? job.id = none
  others : forall id, (forall job, job ∈ jobs -> job.id ≠ id) ->
    next.rows.find? id = store.rows.find? id
  written : Agree jobs -> Newer store jobs -> forall job, job ∈ jobs ->
    next.rows.find? job.id = some job
  grows : RowsGrow store next

theorem foldlM_upsert_ok {jobs : List TransferJob}
    (done : jobs.foldlM TransferStore.upsert store = .ok next) : UpsertedAll store next jobs := by
  induction jobs generalizing store with
  | nil =>
    cases done
    exact ⟨rfl, fun _ member => absurd member List.not_mem_nil, fun _ _ => rfl,
      fun _ _ _ member => absurd member List.not_mem_nil, .refl _⟩
  | cons job jobs ih =>
    rw [List.foldlM_cons] at done
    cases first : store.upsert job with
    | error error =>
      rw [first] at done
      cases done
    | ok middle =>
      rw [first] at done
      have one := upsert_ok first
      have rest := ih done
      constructor
      · exact rest.tombstones.trans one.tombstones
      · intro other member
        rcases List.mem_cons.mp member with rfl | later
        · exact one.unburied
        · rw [← one.tombstones]
          exact rest.unburied other later
      · intro id apart
        rw [rest.others id fun other later => apart other (List.mem_cons_of_mem _ later),
          one.others id (apart job List.mem_cons_self)]
      · intro agree newer
        have written := one.written (newer job List.mem_cons_self)
        have agreeRest : Agree jobs := fun one inside two other =>
          agree one (List.mem_cons_of_mem _ inside) two (List.mem_cons_of_mem _ other)
        -- A later record of the same id is this one, so its row is as old.
        have newerRest : Newer middle jobs := by
          intro other later row found
          by_cases same : job.id = other.id
          · rw [← same, written] at found
            cases found
            rw [agree job List.mem_cons_self other (List.mem_cons_of_mem _ later) same]
          · rw [one.others other.id same] at found
            exact newer other (List.mem_cons_of_mem _ later) row found
        intro other member
        rcases List.mem_cons.mp member with rfl | later
        · by_cases again : Exists fun twin => twin ∈ jobs ∧ twin.id = other.id
          · rcases again with ⟨twin, inside, same⟩
            cases agree twin (List.mem_cons_of_mem _ inside) other List.mem_cons_self same
            exact rest.written agreeRest newerRest _ inside
          · rw [rest.others other.id fun twin inside same => again ⟨twin, inside, same⟩]
            exact written
        · exact rest.written agreeRest newerRest other later
      · exact one.grows.trans rest.grows

theorem upsertMany_ok {jobs : List TransferJob} {failure : Option String}
    (done : store.upsertMany jobs failure = .ok next) : UpsertedAll store next jobs := by
  unfold TransferStore.upsertMany at done
  split at done
  · cases done
  · exact foldlM_upsert_ok done

/-! ## Deletions -/

theorem bury_find? (removedAt : Int) (tombstones : Tombstones) (id other : String) :
    (TransferStore.bury removedAt tombstones id).find? other =
      if other = id ∧ tombstones.find? id = none then some ⟨id, some removedAt⟩
      else tombstones.find? other := by
  unfold TransferStore.bury
  split
  next buried =>
    rw [if_neg]
    rintro ⟨-, absent⟩
    rw [absent] at buried
    cases buried
  next fresh =>
    rw [Table.find?_insert]
    have absent := Option.not_isSome_iff_eq_none.mp fresh
    by_cases same : other = id
    · rw [if_pos same, if_pos ⟨same, absent⟩]
    · rw [if_neg same, if_neg fun both => same both.1]

/-- The tombstones after a deletion: an older tombstone stays. -/
theorem foldl_bury_find? (removedAt : Int) (tombstones : Tombstones) (ids : List String) (id : String) :
    (ids.foldl (TransferStore.bury removedAt) tombstones).find? id =
      if id ∈ ids ∧ tombstones.find? id = none then some ⟨id, some removedAt⟩
      else tombstones.find? id := by
  induction ids generalizing tombstones with
  | nil =>
    rw [if_neg fun both => absurd both.1 List.not_mem_nil]
    rfl
  | cons first ids ih =>
    rw [List.foldl_cons, ih, bury_find?]
    by_cases same : id = first
    · subst same
      by_cases absent : tombstones.find? id = none
      · simp only [absent, and_self, if_true, and_false, reduceCtorEq, if_false, List.mem_cons, true_or]
      · simp only [absent, and_false, if_false]
    · simp only [same, false_and, if_false, List.mem_cons, false_or]

/-- A deletion that succeeds. -/
structure Deleted (store next : TransferStore) (ids : List String) (removedAt : Int) : Prop where
  rows : forall id, next.rows.find? id = if id ∈ ids then none else store.rows.find? id
  tombstones : forall id, next.tombstones.find? id =
    if id ∈ ids ∧ store.tombstones.find? id = none then some ⟨id, some removedAt⟩
    else store.tombstones.find? id

theorem deleteMany_ok {ids : List String} {removedAt : Int} {failure : Option String}
    (done : store.deleteMany ids removedAt failure = .ok next) : Deleted store next ids removedAt := by
  unfold TransferStore.deleteMany at done
  split at done
  · cases done
  · cases done
    exact ⟨fun id => Table.find?_eraseAll store.rows ids id,
      fun id => foldl_bury_find? removedAt store.tombstones ids id⟩

/-! ## Commits of the engine -/

/-- A commit that succeeds, in the database and in memory. -/
structure Committed (engine next : TransferEngine) (updated : List TransferJob) : Prop where
  active : next.active = engine.active
  pendingCommits : next.pendingCommits = engine.pendingCommits
  limit : forall direction, next.limit direction = engine.limit direction
  store : UpsertedAll engine.store next.store updated
  others : forall id, (forall job, job ∈ updated -> job.id ≠ id) ->
    next.jobs.find? id = engine.jobs.find? id
  visible : Agree updated -> forall job, job ∈ updated -> next.jobs.find? job.id = some job

theorem commitJobs_ok {next : TransferEngine} {updated : List TransferJob} {failure : Option String}
    (done : engine.commitJobs updated failure = .ok next) : Committed engine next updated := by
  unfold TransferEngine.commitJobs at done
  split at done
  · cases done
  next store saved =>
    cases done
    refine ⟨rfl, rfl, fun direction => by cases direction <;> rfl, upsertMany_ok saved, ?_, ?_⟩
    · intro id absent
      exact Table.find?_insertAll_of_absent engine.jobs absent
    · intro agree job member
      exact Table.find?_insertAll_of_mem engine.jobs member fun other inside same =>
        agree other inside job member same

theorem agree_singleton (job : TransferJob) : Agree [job] := by
  intro one first two second _
  rw [List.mem_singleton.mp first, List.mem_singleton.mp second]

end Transfers
end TelegramDrive
