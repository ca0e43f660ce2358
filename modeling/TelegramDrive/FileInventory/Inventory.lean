import Mathlib.Algebra.GroupWithZero.Nat
import Mathlib.Data.List.Sort
import TelegramDrive.FileInventory.Folder
import TelegramDrive.Library.Machine

namespace TelegramDrive
namespace FileInventory

/-!
# The inventory of a folder

`Inventory::read` between its await points, with the revision of the account and
the dirty list of the folder that `changed`, `invalidate` and `mutate` write.  Each
access under one of their locks is a step of its own.

An error of the source, of the store or of the account, a timeout, and a read that
is dropped all end a read in the same way, with nothing published.  The record of
the cursor that the database keeps is not read back, and is left out.
-/

variable {Content : Type}

/-- `wrapping_add(1)` on 64 bits. -/
def wrappingSucc (number : Nat) : Nat := (number + 1) % 2 ^ 64

structure Timing where
  poll : Nat
  audit : Nat

/-- `POLL_INTERVAL` and `AUDIT_INTERVAL`, in seconds. -/
def Timing.default : Timing := ⟨30, 240⟩

abbrev Rows (Content : Type) := OrderedMap Nat (Row Content) Row.id

/-- What an inventory has published.  Of the cursor only the high-water id is kept. -/
structure Inventory (Content : Type) where
  rows : Rows Content
  snapshot : List (Row Content)
  complete : Bool
  auditAfter : Nat
  dirty : Nat
  cursor : Option Nat
  lastPoll : Option Nat
  lastAudit : Option Nat
  revision : Nat

namespace Inventory

def new : Inventory Content where
  rows := .empty
  snapshot := []
  complete := true
  auditAfter := 0
  dirty := 0
  cursor := none
  lastPoll := none
  lastAudit := none
  revision := 0

/-- The high-water id, or zero before the first read. -/
def after (inventory : Inventory Content) : Nat := inventory.cursor.getD 0

/-- Whether a read audits: when forced, or after a while if it has a quota. -/
def auditDue (inventory : Inventory Content) (timing : Timing) (force : Bool) (quota now : Nat) : Bool :=
  force || (decide (0 < quota) && inventory.lastAudit.any fun time => decide (timing.audit ≤ now - time))

/-- Whether the last poll is recent. -/
def polled (inventory : Inventory Content) (timing : Timing) (now : Nat) : Bool :=
  inventory.lastPoll.any fun time => decide (now - time < timing.poll)

end Inventory

/-- `Dirty`: the changes of a folder that no read has taken up. -/
structure Dirty where
  generation : Nat
  ids : List Nat

namespace Dirty

/-- The ids with new ones, sorted, each once. -/
def merged (dirty : Dirty) (ids : List Nat) : List Nat :=
  ((dirty.ids ++ ids).dedup).insertionSort (· ≤ ·)

/-- The second half of `changed`, and of `invalidate`, which names no id. -/
def mark (dirty : Dirty) (ids : List Nat) : Dirty where
  generation := wrappingSucc dirty.generation
  ids := (dirty.merged ids).drop ((dirty.merged ids).length - Folder.maxFiles)

end Dirty

/-- The locals of a read.  The last fields are a history: when it began, when it
looked at the dirty list, when it called the history, and when it looked up each id. -/
structure Reading (Content : Type) where
  force : Bool
  quota : Nat
  started : Nat
  observedRevision : Nat
  mutation : Dirty
  dirty : Bool
  audit : Bool
  cold : Bool
  observed : Nat
  rows : Rows Content
  complete : Bool
  auditAfter : Nat
  sweepFinished : Bool
  begunAt : Nat
  seenAt : Nat
  calledAt : Nat
  looked : Nat -> Option Nat

/-- Where a read waits. -/
inductive Phase (Content : Type)
  | begun
  | opening
  | listing
  | verifying (left : List Nat) (found : List (Row Content))
  | auditing (left : List Nat) (last : Option Nat) (processed : Nat)
  | checking
  | confirming
  | publishing

namespace Reading

/-- The start of `read`, which has only seen the revision. -/
def begin (force : Bool) (quota revision now : Nat) : Reading Content where
  force := force
  quota := quota
  started := 0
  observedRevision := revision
  mutation := ⟨0, []⟩
  dirty := false
  audit := false
  cold := false
  observed := 0
  rows := .empty
  complete := true
  auditAfter := 0
  sweepFinished := false
  begunAt := now
  seenAt := 0
  calledAt := 0
  looked := fun _ => none

/-- What a read takes from the inventory when it does not answer from the cache. -/
def take (reading : Reading Content) (inventory : Inventory Content) : Reading Content :=
  { reading with
    rows := inventory.rows
    complete := if reading.cold then true else inventory.complete
    auditAfter := inventory.auditAfter }

/-- `verify` on one batch: every id is answered, and with its own message. -/
def verifyBatch : List Nat -> List (Option (Row Content)) -> Except String (List (Row Content))
  | [], [] => .ok []
  | _ :: ids, none :: values => verifyBatch ids values
  | id :: ids, some row :: values =>
    if row.id ≠ id then .error "INVENTORY_INVALID: Wrong message in verification"
    else
      match verifyBatch ids values with
      | .ok rows => .ok (row :: rows)
      | .error error => .error error
  | _, _ => .error "INVENTORY_INVALID: Incomplete verification batch"

/-- The rows of a history call. -/
def list (reading : Reading Content) (observed : Nat) (additions : List (Row Content)) : Reading Content :=
  { reading with
    observed := observed
    complete := if Folder.maxFiles < additions.length then false else reading.complete
    rows := reading.rows.insertAll additions }

/-- Ids were looked up, and `found` is what there is of them. -/
def verified (reading : Reading Content) (ids : List Nat) (found : List (Row Content)) : Reading Content :=
  { reading with rows := (reading.rows.eraseAll ids).insertAll found }

def note (reading : Reading Content) (ids : List Nat) (now : Nat) : Reading Content :=
  { reading with looked := fun id => if id ∈ ids then some now else reading.looked id }

/-- What follows the history and the dirty ids. -/
def auditPhase (reading : Reading Content) : Phase Content :=
  if !reading.cold && reading.audit then
    .auditing (reading.rows.keysAfter reading.auditAfter) (reading.rows.keysAfter reading.auditAfter).getLast? 0
  else .checking

/-- The end of the audit loop: a sweep that has passed its last id is finished. -/
def endAudit (reading : Reading Content) (last : Option Nat) : Reading Content :=
  let finished := last.all fun last => decide (last ≤ reading.auditAfter)
  { reading with
    sweepFinished := finished
    auditAfter := if finished then 0 else reading.auditAfter }

/-- Only the newest rows are kept. -/
def cut (reading : Reading Content) : Reading Content :=
  if Folder.maxFiles < reading.rows.items.length then
    { reading with
      complete := false
      rows := reading.rows.dropFirst (reading.rows.items.length - Folder.maxFiles) }
  else reading

end Reading

/-- The folder, its inventory and the read that is under way, if one is.  `announced`
has the changes whose first half is done.  The last fields are a history: for every
id the time of the lookup or history call that its published row or absence comes
from, of its last published lookup, and of the last change that named it; the
beginning of the last read that called the history; the beginning of the sweep,
with the ids that have been listed ever since; and whether a change has begun since
the read did, up to its last check. -/
structure State (Content : Type) where
  folder : Folder Content
  inventory : Inventory Content
  revision : Nat
  dirty : Dirty
  announced : List (List Nat)
  reading : Option (Reading Content × Phase Content)
  clock : Nat
  asOf : Nat -> Nat
  lookedUp : Nat -> Nat
  changedAt : Nat -> Nat
  lastStart : Option Nat
  sweepFrom : Nat
  sweepListed : List Nat
  disturbed : Bool

inductive Event (Content : Type)
  | remote (change : RemoteChange Content)
  | change (ids : List Nat)
  | mark (ids : List Nat)
  | mutate
  | elsewhere
  | expirePoll
  | begin (force : Bool) (quota : Nat)
  | look (now : Nat)
  | opened
  | list (observed : Nat) (additions : List (Row Content))
  | lookup
  | audit (reserved : Bool)
  | check
  | confirm
  | publish
  | abort

namespace State

def initial : State Content where
  folder := .empty
  inventory := .new
  revision := 0
  dirty := ⟨0, []⟩
  announced := []
  reading := none
  clock := 1
  asOf _ := 0
  lookedUp _ := 0
  changedAt _ := 0
  lastStart := none
  sweepFrom := 0
  sweepListed := []
  disturbed := false

/-- Whether the read has passed its last check. -/
def confirmed (state : State Content) : Bool :=
  match state.reading with
  | some (_, .publishing) => true
  | _ => false

/-- The revision of the account goes on. -/
def bump (state : State Content) : State Content :=
  { state with
    revision := wrappingSucc state.revision
    disturbed := state.disturbed || !state.confirmed }

def fail (state : State Content) : State Content := { state with reading := none }

/-- A read goes on. -/
def goOn (state : State Content) (reading : Reading Content) (phase : Phase Content) : State Content :=
  { state with reading := some (reading, phase) }

/-- The look at the dirty list, and the answer from the cache. -/
def look (timing : Timing) (state : State Content) (reading : Reading Content) (now : Nat) : State Content :=
  let dirty := decide (state.inventory.dirty ≠ state.dirty.generation)
  let audit := state.inventory.auditDue timing reading.force reading.quota now
  if !audit && !dirty && state.inventory.polled timing now then
    { state with
      inventory := { state.inventory with revision := reading.observedRevision }
      reading := none }
  else
    let cold := state.inventory.cursor.isNone
    state.goOn
      ({ reading with
          started := now
          mutation := state.dirty
          dirty := dirty
          audit := audit
          cold := cold
          seenAt := state.clock
          calledAt := state.clock }.take state.inventory)
      (if cold then .opening else .listing)

/-- The end of a history call. -/
def list (state : State Content) (reading : Reading Content) (observed : Nat)
    (additions : List (Row Content)) : State Content :=
  if observed < state.inventory.after then state.fail
  else
    let reading := reading.list observed additions
    state.goOn reading
      (if !reading.cold && reading.dirty && !reading.mutation.ids.isEmpty then
        .verifying reading.mutation.ids []
      else reading.auditPhase)

/-- One batch of the dirty ids, or their end. -/
def lookup (state : State Content) (reading : Reading Content) (left : List Nat)
    (found : List (Row Content)) : State Content :=
  if left.isEmpty then
    let reading := reading.verified reading.mutation.ids found
    state.goOn reading reading.auditPhase
  else
    match Reading.verifyBatch (left.take 100) (state.folder.lookup (left.take 100)) with
    | .error _ => state.fail
    | .ok rows =>
      state.goOn (reading.note (left.take 100) state.clock) (.verifying (left.drop 100) (found ++ rows))

/-- One batch of the audit, or its end. -/
def audit (state : State Content) (reading : Reading Content) (left : List Nat) (last : Option Nat)
    (processed : Nat) (reserved : Bool) : State Content :=
  if left.isEmpty || (!reading.force && (decide (reading.quota ≤ processed) || !reserved)) then
    state.goOn (reading.endAudit last) .checking
  else
    match Reading.verifyBatch (left.take 100) (state.folder.lookup (left.take 100)) with
    | .error _ => state.fail
    | .ok rows =>
      let reading := (reading.verified (left.take 100) rows).note (left.take 100) state.clock
      state.goOn { reading with auditAfter := (left.take 100).getLast?.getD reading.auditAfter }
        (.auditing (left.drop 100) last (processed + 1))

/-- The first check of a read, behind the cut. -/
def check (state : State Content) (reading : Reading Content) : State Content :=
  if state.revision ≠ reading.observedRevision ∨ state.dirty.generation ≠ reading.mutation.generation then
    state.fail
  else state.goOn reading.cut .confirming

/-- The last check of a read. -/
def confirm (state : State Content) (reading : Reading Content) : State Content :=
  if state.revision ≠ reading.observedRevision then state.fail
  else state.goOn reading .publishing

/-- The time that the row or absence of an id comes from, once a read is published. -/
def stamp (state : State Content) (reading : Reading Content) (id : Nat) : Nat :=
  match reading.looked id with
  | some time => time
  | none => if state.inventory.after < id then reading.calledAt else state.asOf id

/-- The beginning of the sweep that a read continues or begins. -/
def sweepStart (state : State Content) (reading : Reading Content) : Nat :=
  if state.inventory.auditAfter = 0 then reading.begunAt else state.sweepFrom

/-- The ids that have been listed since the sweep began. -/
def sweepIds (state : State Content) : List Nat :=
  if state.inventory.auditAfter = 0 then state.inventory.rows.keys else state.sweepListed

/-- What a read publishes. -/
def publish (state : State Content) (reading : Reading Content) : State Content :=
  { state with
    inventory := {
      rows := reading.rows
      snapshot := reading.rows.items.reverse
      complete := reading.complete
      auditAfter := reading.auditAfter
      dirty := reading.mutation.generation
      cursor := some reading.observed
      lastPoll := some reading.started
      lastAudit :=
        if reading.cold || reading.sweepFinished then some reading.started else state.inventory.lastAudit
      revision := reading.observedRevision }
    dirty :=
      if state.dirty.generation = reading.mutation.generation then { state.dirty with ids := [] }
      else state.dirty
    reading := none
    asOf := state.stamp reading
    lookedUp := fun id => (reading.looked id).getD (state.lookedUp id)
    lastStart := some reading.begunAt
    sweepFrom := state.sweepStart reading
    sweepListed := state.sweepIds.filter fun id => decide (id ∈ reading.rows.keys) }

/-- A step of the read that is under way. -/
def advance (timing : Timing) (state : State Content) (reading : Reading Content) :
    Phase Content -> Event Content -> Option (State Content)
  | .begun, .look now => some (state.look timing reading now)
  | .opening, .opened => some (state.goOn { reading with calledAt := state.clock } .listing)
  | .listing, .list observed additions =>
    if state.folder.answers state.inventory.after reading.calledAt observed additions then
      some (state.list reading observed additions)
    else none
  | .verifying left found, .lookup => some (state.lookup reading left found)
  | .auditing left last processed, .audit reserved => some (state.audit reading left last processed reserved)
  | .checking, .check => some (state.check reading)
  | .confirming, .confirm => some (state.confirm reading)
  | .publishing, .publish => some (state.publish reading)
  | _, .abort => some state.fail
  | _, _ => none

/-- A step, before the clock goes on. -/
def act (timing : Timing) (state : State Content) (event : Event Content) : Option (State Content) :=
  match event with
  | .remote change =>
    (state.folder.change state.clock change).map fun folder => { state with folder := folder }
  | .change ids => some { state.bump with announced := ids :: state.announced }
  | .mark ids =>
    if ids ∈ state.announced then
      some { state with
        dirty := state.dirty.mark ids
        announced := state.announced.erase ids
        changedAt := fun id => if id ∈ ids then state.clock else state.changedAt id }
    else none
  | .mutate => some state.bump.bump
  | .elsewhere => some state.bump
  | .expirePoll =>
    if state.reading.isNone then some { state with inventory := { state.inventory with lastPoll := none } }
    else none
  | .begin force quota =>
    if state.reading.isNone then
      some { state.goOn (.begin force quota state.revision state.clock) .begun with disturbed := false }
    else none
  | event => state.reading.bind fun (reading, phase) => state.advance timing reading phase event

end State

end FileInventory
end TelegramDrive
