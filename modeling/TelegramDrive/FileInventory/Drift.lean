import Mathlib.Data.List.Dedup
import TelegramDrive.FileInventory.Inventory

namespace TelegramDrive
namespace FileInventory

/-!
# What happens around a read

Others change the folder, the revision and the dirty list while a read waits.  As
long as no counter wraps and the dirty list does not overflow, all of it is one
relation between the states before and after, and what an inventory has published
stays as good as it was.
-/

variable {Content : Type} {timing : Timing} {state next : State Content}

/-- The counters do not wrap, and the dirty list has room. -/
def State.fits (state : State Content) : Event Content -> Bool
  | .change _ | .elsewhere => decide (state.revision + 1 < 2 ^ 64)
  | .mutate => decide (state.revision + 2 < 2 ^ 64)
  | .mark ids =>
    decide (state.dirty.generation + 1 < 2 ^ 64) &&
      decide ((state.dirty.merged ids).length ≤ Folder.maxFiles)
  | _ => true

/-- What others do, and time: nothing published changes, nothing becomes due, and a
change that is noted leaves its ids in the dirty list under a new generation. -/
structure Drifts (state next : State Content) : Prop where
  inventory : next.inventory = state.inventory
  asOf : next.asOf = state.asOf
  lookedUp : next.lookedUp = state.lookedUp
  lastStart : next.lastStart = state.lastStart
  sweepFrom : next.sweepFrom = state.sweepFrom
  sweepListed : next.sweepListed = state.sweepListed
  clock : state.clock < next.clock
  folder : state.folder.Sound state.clock -> next.folder.Sound next.clock
  top : state.folder.top ≤ next.folder.top
  due : forall observed begunAt id, observed ≤ state.folder.top -> begunAt ≤ state.clock ->
    next.folder.Due observed begunAt id -> state.folder.Due observed begunAt id
  revision : state.revision ≤ next.revision
  disturbed : next.disturbed = true -> state.disturbed = true ∨ state.revision < next.revision
  generation : state.dirty.generation ≤ next.dirty.generation
  unmarked : next.dirty.generation = state.dirty.generation ->
    next.dirty = state.dirty ∧ next.changedAt = state.changedAt
  kept : forall id, id ∈ state.dirty.ids -> id ∈ next.dirty.ids
  changedAt : forall id, next.changedAt id = state.changedAt id ∨
    (next.changedAt id = state.clock ∧ id ∈ next.dirty.ids ∧
      state.dirty.generation < next.dirty.generation)

/-- The published rows and what the history says of them. -/
structure Published (state : State Content) : Prop where
  folder : state.folder.Sound state.clock
  highwater : state.inventory.after ≤ state.folder.top
  snapshot : state.inventory.snapshot = state.inventory.rows.items.reverse
  bounded : state.inventory.rows.items.length ≤ Folder.maxFiles
  positive : forall id, id ∈ state.inventory.rows.keys -> 0 < id
  started : state.lastStart.getD 0 ≤ state.clock
  whole : state.inventory.complete = true -> forall id,
    state.folder.Due state.inventory.after (state.lastStart.getD 0) id -> id ∈ state.inventory.rows.keys
  polled : state.inventory.lastPoll.isSome = true -> state.inventory.cursor.isSome = true
  dirty : state.inventory.dirty ≤ state.dirty.generation
  past : forall id, state.changedAt id < state.clock
  settled : state.inventory.cursor.isSome = true -> forall id, 0 < id -> 0 < state.changedAt id ->
    state.changedAt id < state.asOf id ∨
      (id ∈ state.dirty.ids ∧ state.inventory.dirty < state.dirty.generation)
  sweepFrom : state.sweepFrom < state.clock
  listed : forall id, id ∈ state.sweepListed -> id ∈ state.inventory.rows.keys
  swept : forall id, id ∈ state.inventory.rows.keys -> id ≤ state.inventory.auditAfter ->
    state.sweepFrom ≤ state.asOf id ∧ (id ∈ state.sweepListed -> state.sweepFrom ≤ state.lookedUp id)

/-- What others do leaves the published rows as good as they were. -/
theorem Drifts.published (drifts : Drifts state next) (published : Published state) : Published next where
  folder := drifts.folder published.folder
  highwater := by
    rw [drifts.inventory]
    exact published.highwater.trans drifts.top
  snapshot := by
    rw [drifts.inventory]
    exact published.snapshot
  bounded := by
    rw [drifts.inventory]
    exact published.bounded
  positive := by
    rw [drifts.inventory]
    exact published.positive
  started := by
    rw [drifts.lastStart]
    exact published.started.trans drifts.clock.le
  whole := by
    rw [drifts.inventory, drifts.lastStart]
    intro complete id due
    exact published.whole complete id (drifts.due _ _ _ published.highwater published.started due)
  polled := by
    rw [drifts.inventory]
    exact published.polled
  dirty := by
    rw [drifts.inventory]
    exact published.dirty.trans drifts.generation
  past id := by
    rcases drifts.changedAt id with same | ⟨now, -⟩
    · rw [same]
      exact (published.past id).trans drifts.clock
    · rw [now]
      exact drifts.clock
  settled := by
    rw [drifts.inventory, drifts.asOf]
    intro cursor id positive changed
    rcases drifts.changedAt id with same | ⟨-, listed, later⟩
    · rw [same] at changed ⊢
      refine (published.settled cursor id positive changed).imp_right ?_
      exact fun waits => ⟨drifts.kept id waits.1, waits.2.trans_le drifts.generation⟩
    · exact Or.inr ⟨listed, published.dirty.trans_lt later⟩
  sweepFrom := by
    rw [drifts.sweepFrom]
    exact published.sweepFrom.trans drifts.clock
  listed := by
    rw [drifts.sweepListed, drifts.inventory]
    exact published.listed
  swept := by
    rw [drifts.inventory, drifts.asOf, drifts.sweepFrom, drifts.sweepListed, drifts.lookedUp]
    exact published.swept

end FileInventory
end TelegramDrive
