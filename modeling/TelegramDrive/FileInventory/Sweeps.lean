import TelegramDrive.FileInventory.Reads

namespace TelegramDrive
namespace FileInventory

/-!
# The steps of a read

What each step of a read makes of what is known of it: the lookups of the dirty
ids, the batches of an audit, the cut, the checks and the publication.
-/

variable {Content : Type} {timing : Timing} {state next : State Content} {reading : Reading Content}

/-! ## Changes of the rows alone -/

theorem Begun.same {other : Reading Content} (begun : Begun state reading)
    (begunAt : other.begunAt = reading.begunAt)
    (revision : other.observedRevision = reading.observedRevision) : Begun state other where
  begunAt := begunAt ▸ begun.begunAt
  revision := revision ▸ begun.revision
  disturbed := revision ▸ begun.disturbed
  sweepFrom := begunAt ▸ begun.sweepFrom

theorem Taken.update (taken : Taken state reading) (observed : Nat) (rows : Rows Content)
    (complete : Bool) (auditAfter : Nat) (sweepFinished : Bool) :
    Taken state { reading with
      observed := observed
      rows := rows
      complete := complete
      auditAfter := auditAfter
      sweepFinished := sweepFinished } :=
  ⟨taken.seenAt, taken.seen, taken.calledAt, taken.cold, taken.generation, taken.ids, taken.changes,
    taken.looked⟩

/-- The sweep goes on to another id once it has passed every row up to it. -/
theorem Listed.sweep (listed : Listed state reading) {auditAfter : Nat} {finished : Bool}
    (passes : forall id, id ∈ reading.rows.keys -> finished = true ∨ id ≤ auditAfter ->
      Passed state reading id) :
    Listed state { reading with auditAfter := auditAfter, sweepFinished := finished } where
  observed := listed.observed
  whole := listed.whole
  positive := listed.positive
  passed id member before :=
    have passed := passes id member before
    ⟨passed.asOf, passed.lookedUp⟩

/-! ## The dirty ids -/

theorem Listed.drop (listed : Listed state reading) (count : Nat) :
    Listed state { reading with complete := false, rows := reading.rows.dropFirst count } where
  observed := listed.observed
  whole complete := nomatch complete
  positive id member := listed.positive id (OrderedMap.mem_keys_dropFirst member)
  passed id member passes :=
    have passed := listed.passed id (OrderedMap.mem_keys_dropFirst member) passes
    ⟨passed.asOf, passed.lookedUp⟩

/-- A read that finds the revision it began with was not disturbed. -/
theorem Begun.calm (begun : Begun state reading) (same : state.revision = reading.observedRevision) :
    state.disturbed = false := by
  cases disturbed : state.disturbed with
  | false => rfl
  | true => exact absurd (begun.disturbed disturbed) (by omega)

end FileInventory
end TelegramDrive
