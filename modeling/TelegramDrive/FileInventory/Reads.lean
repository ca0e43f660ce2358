import TelegramDrive.FileInventory.Drift

namespace TelegramDrive
namespace FileInventory

/-!
# The read that is under way

What is known of a read in each of its phases, and that it stays known whatever
others do meanwhile.
-/

variable {Content : Type} {timing : Timing} {state next : State Content} {reading : Reading Content}

/-! ## The parts of the invariant -/

structure Begun (state : State Content) (reading : Reading Content) : Prop where
  begunAt : reading.begunAt < state.clock
  revision : reading.observedRevision ≤ state.revision
  disturbed : state.disturbed = true -> reading.observedRevision < state.revision
  sweepFrom : state.sweepFrom ≤ reading.begunAt

/-- The read has looked at the dirty list.  A change that it does not know of has
left a newer generation. -/
structure Taken (state : State Content) (reading : Reading Content) : Prop where
  seenAt : reading.begunAt < reading.seenAt
  seen : reading.seenAt < state.clock
  calledAt : reading.seenAt ≤ reading.calledAt
  cold : reading.cold = state.inventory.cursor.isNone
  generation : reading.mutation.generation ≤ state.dirty.generation
  ids : reading.mutation.generation = state.dirty.generation -> reading.mutation = state.dirty
  changes : forall id, 0 < id -> 0 < state.changedAt id ->
    (state.changedAt id < reading.seenAt ∧
      (reading.cold = true ∨ state.changedAt id < state.asOf id ∨
        (reading.dirty = true ∧ id ∈ reading.mutation.ids))) ∨
    (reading.seenAt ≤ state.changedAt id ∧ id ∈ state.dirty.ids ∧
      reading.mutation.generation < state.dirty.generation)
  looked : forall id time, reading.looked id = some time -> reading.seenAt ≤ time

/-- The history has not answered yet. -/
structure Waiting (state : State Content) (reading : Reading Content) : Prop where
  rows : reading.rows = state.inventory.rows
  complete : reading.cold = false -> reading.complete = state.inventory.complete
  auditAfter : reading.auditAfter = state.inventory.auditAfter
  looked : reading.looked = fun _ => none
  sweepFinished : reading.sweepFinished = false

/-- A row that the sweep has passed. -/
structure Passed (state : State Content) (reading : Reading Content) (id : Nat) : Prop where
  asOf : state.sweepStart reading ≤ state.stamp reading id
  lookedUp : id ∈ state.sweepIds -> state.sweepStart reading ≤ (reading.looked id).getD (state.lookedUp id)

/-- The history has answered. -/
structure Listed (state : State Content) (reading : Reading Content) : Prop where
  observed : reading.observed ≤ state.folder.top
  whole : reading.complete = true -> forall id,
    state.folder.Due reading.observed reading.begunAt id -> id ∈ reading.rows.keys
  positive : forall id, id ∈ reading.rows.keys -> 0 < id
  passed : forall id, id ∈ reading.rows.keys ->
    reading.sweepFinished = true ∨ id ≤ reading.auditAfter -> Passed state reading id

/-- Some of the dirty ids have been looked up. -/
structure Verifying (state : State Content) (reading : Reading Content) (left : List Nat)
    (found : List (Row Content)) : Prop where
  done : Exists fun done => reading.mutation.ids = done ++ left ∧ forall id, id ∈ done ->
    (reading.looked id).isSome = true ∧
      (state.folder.Due reading.observed reading.begunAt id -> id ∈ found.map Row.id)
  found : forall id, id ∈ found.map Row.id -> 0 < id ∧ (reading.looked id).isSome = true

theorem Drifts.begun (drifts : Drifts state next) (begun : Begun state reading) : Begun next reading where
  begunAt := begun.begunAt.trans drifts.clock
  revision := begun.revision.trans drifts.revision
  disturbed disturbed := by
    rcases drifts.disturbed disturbed with earlier | later
    · exact (begun.disturbed earlier).trans_le drifts.revision
    · exact begun.revision.trans_lt later
  sweepFrom := by
    rw [drifts.sweepFrom]
    exact begun.sweepFrom

theorem Drifts.taken (drifts : Drifts state next) (taken : Taken state reading) : Taken next reading where
  seenAt := taken.seenAt
  seen := taken.seen.trans drifts.clock
  calledAt := taken.calledAt
  cold := by
    rw [drifts.inventory]
    exact taken.cold
  generation := taken.generation.trans drifts.generation
  ids same := by
    have unmarked : next.dirty.generation = state.dirty.generation := by
      have before := taken.generation
      have after := drifts.generation
      omega
    rw [(drifts.unmarked unmarked).1]
    exact taken.ids (same.trans unmarked)
  changes id positive changed := by
    rcases drifts.changedAt id with same | ⟨now, listed, later⟩
    · rw [same] at changed ⊢
      rw [drifts.asOf]
      refine (taken.changes id positive changed).imp_right ?_
      exact fun ⟨since, waits, newer⟩ => ⟨since, drifts.kept id waits, newer.trans_le drifts.generation⟩
    · rw [now]
      exact Or.inr ⟨taken.seen.le, listed, taken.generation.trans_lt later⟩
  looked := taken.looked

theorem Drifts.waiting (drifts : Drifts state next) (waiting : Waiting state reading) :
    Waiting next reading where
  rows := by
    rw [drifts.inventory]
    exact waiting.rows
  complete := by
    rw [drifts.inventory]
    exact waiting.complete
  auditAfter := by
    rw [drifts.inventory]
    exact waiting.auditAfter
  looked := waiting.looked
  sweepFinished := waiting.sweepFinished

theorem Drifts.sweepStart (drifts : Drifts state next) :
    next.sweepStart reading = state.sweepStart reading := by
  unfold State.sweepStart
  rw [drifts.inventory, drifts.sweepFrom]

theorem Drifts.stamp (drifts : Drifts state next) (id : Nat) :
    next.stamp reading id = state.stamp reading id := by
  unfold State.stamp
  rw [drifts.inventory, drifts.asOf]

theorem Drifts.sweepIds (drifts : Drifts state next) : next.sweepIds = state.sweepIds := by
  unfold State.sweepIds
  rw [drifts.inventory, drifts.sweepListed]

theorem Drifts.passed (drifts : Drifts state next) {id : Nat} (passed : Passed state reading id) :
    Passed next reading id where
  asOf := by
    rw [drifts.sweepStart, drifts.stamp]
    exact passed.asOf
  lookedUp := by
    rw [drifts.sweepStart, drifts.sweepIds, drifts.lookedUp]
    exact passed.lookedUp

theorem Drifts.listed (drifts : Drifts state next) (begun : Begun state reading)
    (listed : Listed state reading) : Listed next reading where
  observed := listed.observed.trans drifts.top
  whole complete id due :=
    listed.whole complete id (drifts.due _ _ _ listed.observed begun.begunAt.le due)
  positive := listed.positive
  passed id member passes := drifts.passed (listed.passed id member passes)

theorem Drifts.verifying (drifts : Drifts state next) (begun : Begun state reading)
    (listed : Listed state reading) {left : List Nat} {found : List (Row Content)}
    (verifying : Verifying state reading left found) : Verifying next reading left found where
  done := by
    rcases verifying.done with ⟨done, same, facts⟩
    refine ⟨done, same, ?_⟩
    intro id member
    rcases facts id member with ⟨looked, known⟩
    exact ⟨looked, fun due => known (drifts.due _ _ _ listed.observed begun.begunAt.le due)⟩
  found := verifying.found

end FileInventory
end TelegramDrive
