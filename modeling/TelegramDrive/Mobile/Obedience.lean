import TelegramDrive.Mobile.TransferQueue
import Mathlib.Data.List.Nodup

namespace TelegramDrive
namespace Mobile

/-!
# The queues obey their commands

An item has at most one start under way, and the count is the number of starts that are
counted.  A pending item was neither paused nor cancelled since it became pending, so a
transfer command that is issued right behind the check of its item is issued for an item
that the user wants.

A download waits several times between that check and its command, and only a pause that
was noted stops it then.  And an effect pass does not see the starts that are not counted
yet.  The condition on runs leaves these two cases out.
-/

/-! ## The condition -/

namespace StartPoint

/-- The start is between the check of its item and the transfer command. -/
def isPreparing : StartPoint -> Bool
  | .environment _ | .inquiring _ | .unlocking _ | .prompting _ | .staging _ => true
  | _ => false

def isOpen (point : StartPoint) : Bool := point != .closing

/-- The item that the start took from the queue. -/
def item : StartPoint -> Option QueueItem
  | .persisting _ | .closing => none
  | .environment item | .inquiring item | .unlocking item | .prompting item | .staging item | .invoking item
  | .deleting item => some item

end StartPoint

namespace HookState

variable (hook : Hook) (settings : HookSettings) (state : HookState)

def hasStatus (id : Nat) (statuses : List ItemStatus) : Bool :=
  state.queue.any fun item => item.id == id && decide (item.status ∈ statuses)

/-- The command pauses, cancels or clears the item, and notes no pause for its start. -/
def disturbs (id : Nat) : HookEvent -> Bool
  | .pauseItem other =>
    other == id && (state.queue.find id).any fun item => decide (item.status ∈ ItemStatus.waitingForNetwork :: hook.idle)
  | .pauseAll => state.hasStatus id hook.idle
  | .cancelItem other => other == id && state.hasStatus id (hook.active ++ hook.removable)
  | .cancelAll => state.hasStatus id (hook.active ++ hook.removable)
  | .clearFinished => state.hasStatus id hook.clearable
  | _ => false

/-- An effect pass leaves room for the starts that are not counted yet, and no command
disturbs an item between its check and its transfer command. -/
def mindful (event : HookEvent) : Bool :=
  match event with
  | .schedule =>
    !state.network || decide (state.starts.countP (·.point.isOpen) +
      ((state.candidates settings).filter fun item => decide (item.id ∉ state.starting)).length ≤ settings.limit)
  | event =>
    state.starts.all fun start =>
      !start.point.isPreparing || decide (start.id ∈ state.paused) || !state.disturbs hook start.id event

/-! ## The invariant -/

/-- The items have names of their own, all of them enqueued before. -/
structure Named (added queue : Queue) : Prop where
  distinct : (queue.map QueueItem.id).Nodup
  known : forall item, item ∈ queue -> item.id ∈ added.map QueueItem.id

/-- The item is wanted: it is in the queue, and it was not stopped. -/
def Wanted (id : Nat) : Prop := id ∈ state.queue.map QueueItem.id ∧ id ∉ state.stopped

/-- An item has at most one start, and no other begins meanwhile. -/
structure Separate : Prop where
  distinct : (state.starts.map Start.id).Nodup
  starting : forall start, start ∈ state.starts -> start.id ∈ state.starting

structure Obedient : Prop where
  separate : state.Separate
  counted : state.activeCount = state.starts.countP (·.point.isCounted)
  limited : state.starts.countP (·.point.isOpen) ≤ settings.limit
  named : Named state.added state.queue
  stored : Named state.added state.store
  saving : forall queue, queue ∈ state.saves -> Named state.added queue
  stopped : forall id, id ∈ state.stopped -> id ∈ state.added.map QueueItem.id
  pending : forall item, item ∈ state.queue -> item.status = .pending -> item.id ∉ state.stopped
  taken : forall start item, start ∈ state.starts -> start.point.item = some item -> item.id = start.id
  prepared : forall start, start ∈ state.starts -> start.point.isPreparing = true ->
    start.id ∈ state.paused ∨ state.Wanted start.id

end HookState

/-! ## Queues -/

namespace Queue

variable {queue : Queue}

theorem ids_map {change : QueueItem -> QueueItem} (keeps : forall item, (change item).id = item.id) :
    (queue.map change).map QueueItem.id = queue.map QueueItem.id := by
  rw [List.map_map]
  refine List.map_congr_left ?_
  intro item _
  exact keeps item

theorem relabel_id (selects : QueueItem -> Bool) (status : ItemStatus) (item : QueueItem) :
    (relabel selects status item).id = item.id := by
  unfold relabel
  split <;> rfl

theorem relabel_pending {selects : QueueItem -> Bool} {status : ItemStatus} {item : QueueItem}
    (is : (relabel selects status item).status = .pending) :
    item.status = .pending ∧ selects item = false ∨ status = .pending ∧ selects item = true := by
  unfold relabel at is
  split at is
  next selected => exact Or.inr ⟨is, selected⟩
  next unselected => exact Or.inl ⟨is, Bool.eq_false_iff.mpr unselected⟩

theorem mem_idsWhere {selects : QueueItem -> Bool} {id : Nat} :
    id ∈ queue.idsWhere selects ↔ Exists fun item => item ∈ queue ∧ selects item = true ∧ item.id = id := by
  unfold idsWhere
  rw [List.mem_map]
  constructor
  · rintro ⟨item, member, same⟩
    rw [List.mem_filter] at member
    exact ⟨item, member.1, member.2, same⟩
  · rintro ⟨item, member, selected, same⟩
    exact ⟨item, List.mem_filter.mpr ⟨member, selected⟩, same⟩

theorem find_some {id : Nat} {item : QueueItem} (found : queue.find id = some item) : item ∈ queue ∧ item.id = id := by
  unfold find at found
  have same := List.find?_some found
  exact ⟨List.mem_of_find?_eq_some found, beq_iff_eq.mp same⟩

end Queue

namespace HookState

namespace Named

variable {added queue : Queue}

theorem map {change : QueueItem -> QueueItem} (named : Named added queue)
    (keeps : forall item, (change item).id = item.id) : Named added (queue.map change) where
  distinct := by
    rw [Queue.ids_map keeps]
    exact named.distinct
  known := by
    intro item member
    rcases List.mem_map.mp member with ⟨before, inside, same⟩
    rw [← same, keeps]
    exact named.known before inside

theorem filter (named : Named added queue) (selects : QueueItem -> Bool) : Named added (queue.filter selects) where
  distinct := named.distinct.sublist (List.filter_sublist.map QueueItem.id)
  known := fun item member => named.known item (List.mem_of_mem_filter member)

theorem more {later : Queue} (named : Named added queue) : Named (later ++ added) queue where
  distinct := named.distinct
  known := by
    intro item member
    rw [List.map_append]
    exact List.mem_append_right _ (named.known item member)

/-- Two items of a queue with one name are the same. -/
theorem unique {one two : QueueItem} (named : Named added queue) (first : one ∈ queue) (second : two ∈ queue)
    (same : one.id = two.id) : one = two :=
  List.inj_on_of_nodup_map named.distinct first second same

theorem serialized (named : Named added queue) (hook : Hook) : Named added (queue.serialize hook) :=
  (named.filter _).map fun _ => rfl

theorem restored (named : Named added queue) (hook : Hook) : Named added (queue.restore hook) := by
  refine (named.filter _).map fun item => ?_
  cases hook <;> rfl

end Named

end HookState

/-! ## Commands -/

namespace HookState

variable {hook : Hook} {settings : HookSettings} {state next : HookState}

/-- The starts, the count and what was saved stay as they are. -/
structure Frame (state next : HookState) : Prop where
  starts : next.starts = state.starts
  starting : next.starting = state.starting
  activeCount : next.activeCount = state.activeCount
  store : next.store = state.store
  saves : next.saves = state.saves
  added : next.added = state.added

theorem Separate.same (separate : state.Separate) (starts : next.starts = state.starts)
    (starting : next.starting = state.starting) : next.Separate where
  distinct := by
    rw [starts]
    exact separate.distinct
  starting := by
    rw [starts, starting]
    exact separate.starting

/-- A command that keeps the starts obeys. -/
theorem Obedient.command (obedient : state.Obedient settings) (frame : state.Frame next)
    (named : Named state.added next.queue)
    (stopped : forall id, id ∈ next.stopped -> id ∈ state.stopped ∨ id ∈ state.queue.map QueueItem.id)
    (pending : forall item, item ∈ next.queue -> item.status = .pending -> item.id ∉ next.stopped)
    (prepared : forall start, start ∈ state.starts -> start.point.isPreparing = true ->
      start.id ∈ next.paused ∨ next.Wanted start.id) : next.Obedient settings := by
  rcases frame with ⟨starts, starting, activeCount, store, saves, added⟩
  constructor
  · exact obedient.separate.same starts starting
  · rw [starts, activeCount]
    exact obedient.counted
  · rw [starts]
    exact obedient.limited
  · rw [added]
    exact named
  · rw [added, store]
    exact obedient.stored
  · rw [added, saves]
    exact obedient.saving
  · intro id member
    rw [added]
    rcases stopped id member with before | queued
    · exact obedient.stopped id before
    · rcases List.mem_map.mp queued with ⟨item, inside, same⟩
      rw [← same]
      exact obedient.named.known item inside
  · exact pending
  · rw [starts]
    exact obedient.taken
  · rw [starts]
    exact prepared

/-- Some items become pending, and no longer count as stopped. -/
structure Resumes (state next : HookState) : Prop where
  frame : state.Frame next
  paused : next.paused = state.paused
  items : Exists fun change : QueueItem -> QueueItem => Exists fun selects : QueueItem -> Bool =>
    next.queue = state.queue.map change ∧
      next.stopped = (state.stopped.filter fun id => !(state.queue.any fun item => item.id == id && selects item)) ∧
      (forall item, (change item).id = item.id) ∧
      forall item, (change item).status = .pending -> item.status = .pending ∨ selects item = true

theorem Obedient.resume (obedient : state.Obedient settings) (resumes : state.Resumes next) :
    next.Obedient settings := by
  rcases resumes with ⟨frame, paused, change, selects, queue, stopped, keeps, becomes⟩
  have fewer : forall id, id ∈ next.stopped -> id ∈ state.stopped := by
    intro id member
    rw [stopped] at member
    exact List.mem_of_mem_filter member
  refine obedient.command frame ?_ (fun id member => Or.inl (fewer id member)) ?_ ?_
  · rw [queue]
    exact obedient.named.map keeps
  · intro item member pending
    rw [queue] at member
    rcases List.mem_map.mp member with ⟨before, inside, same⟩
    rw [← same] at pending ⊢
    rw [keeps]
    intro held
    rcases becomes before pending with was | selected
    · exact obedient.pending before inside was (fewer _ held)
    · rw [stopped, List.mem_filter, Bool.not_eq_true', List.any_eq_false] at held
      apply held.2 before inside
      rw [beq_self_eq_true, selected]
      rfl
  · intro start member preparing
    rcases obedient.prepared start member preparing with noted | ⟨queued, wanted⟩
    · rw [paused]
      exact Or.inl noted
    · refine Or.inr ⟨?_, fun held => wanted (fewer _ held)⟩
      rw [queue, Queue.ids_map keeps]
      exact queued

/-- Some items are stopped, and some are hit: they are stopped or removed.  What is stopped
is shown as something else than pending. -/
structure Stops (state next : HookState) (halts hits : Nat -> Prop) : Prop where
  frame : state.Frame next
  paused : forall id, id ∈ state.paused -> id ∈ next.paused
  stopped : forall id, id ∈ next.stopped ↔ halts id ∨ id ∈ state.stopped
  queued : forall id, halts id -> id ∈ state.queue.map QueueItem.id
  hit : forall id, halts id -> hits id
  items : Exists fun change : QueueItem -> QueueItem => Exists fun removed : QueueItem -> Bool =>
    next.queue = (state.queue.without removed).map change ∧ (forall item, (change item).id = item.id) ∧
      (forall item, item ∈ state.queue -> removed item = false -> (change item).status = .pending ->
        item.status = .pending ∧ ¬halts item.id) ∧
      forall item, item ∈ state.queue -> removed item = true -> hits item.id

/-- A command that stops items obeys, if it leaves alone what is being prepared or notes a
pause for it. -/
theorem Obedient.stop {halts hits : Nat -> Prop} (obedient : state.Obedient settings) (stops : state.Stops next halts hits)
    (undisturbed : forall start, start ∈ state.starts -> start.point.isPreparing = true -> hits start.id ->
      start.id ∈ next.paused) : next.Obedient settings := by
  rcases stops with ⟨frame, paused, stopped, queued, hit, change, removed, queue, keeps, pending, gone⟩
  refine obedient.command frame ?_ ?_ ?_ ?_
  · rw [queue]
    exact (obedient.named.filter _).map keeps
  · intro id member
    rcases (stopped id).mp member with now | before
    · exact Or.inr (queued id now)
    · exact Or.inl before
  · intro item member is held
    rw [queue] at member
    rcases List.mem_map.mp member with ⟨before, inside, same⟩
    unfold Queue.without at inside
    rw [List.mem_filter, Bool.not_eq_true'] at inside
    rw [← same] at is held
    rw [keeps] at held
    rcases pending before inside.1 inside.2 is with ⟨was, spared⟩
    rcases (stopped before.id).mp held with now | earlier
    · exact spared now
    · exact obedient.pending before inside.1 was earlier
  · intro start member preparing
    rcases Classical.em (hits start.id) with now | spared
    · exact Or.inl (undisturbed start member preparing now)
    · rcases obedient.prepared start member preparing with noted | ⟨there, wanted⟩
      · exact Or.inl (paused _ noted)
      · refine Or.inr ⟨?_, fun held => ((stopped start.id).mp held).elim (fun now => spared (hit _ now)) wanted⟩
        rw [queue, Queue.ids_map keeps]
        rcases List.mem_map.mp there with ⟨item, inside, same⟩
        refine List.mem_map.mpr ⟨item, ?_, same⟩
        unfold Queue.without
        rw [List.mem_filter, Bool.not_eq_true']
        refine ⟨inside, ?_⟩
        cases out : removed item with
        | false => rfl
        | true =>
          rw [← same] at spared
          exact absurd (gone item inside out) spared

/-! ## Resuming -/

variable {selects : QueueItem -> Bool}

/-- A selection of items becomes pending. -/
theorem mark_resumes (frame : state.Frame next) (paused : next.paused = state.paused)
    (queue : next.queue = state.queue.mark selects .pending)
    (stopped : next.stopped =
      state.stopped.filter fun id => !(state.queue.any fun item => item.id == id && selects item)) :
    state.Resumes next := by
  refine ⟨frame, paused, _, selects, queue, stopped, Queue.relabel_id selects .pending, ?_⟩
  intro item pending
  exact (Queue.relabel_pending pending).imp And.left And.right

theorem resumeAll_resumes (state : HookState) : state.Resumes state.resumeAll :=
  mark_resumes ⟨rfl, rfl, rfl, rfl, rfl, rfl⟩ rfl rfl rfl

theorem again_resumes (state : HookState) (selects : QueueItem -> Bool) (token : Option Nat) :
    state.Resumes (state.again selects token) := by
  refine ⟨⟨rfl, rfl, rfl, rfl, rfl, rfl⟩, rfl, _, selects, rfl, rfl, ?_, ?_⟩
  · intro item
    split <;> rfl
  · intro item pending
    split at pending
    next selected => exact Or.inr selected
    · exact Or.inl pending

theorem endCooldown_resumes (state : HookState) (id : Nat) : state.Resumes (state.endCooldown id) :=
  mark_resumes ⟨rfl, rfl, rfl, rfl, rfl, rfl⟩ rfl rfl rfl

/-- Nothing becomes pending, and nothing is stopped. -/
theorem Obedient.relabel {change : QueueItem -> QueueItem} (obedient : state.Obedient settings)
    (frame : state.Frame next) (paused : next.paused = state.paused) (stopped : next.stopped = state.stopped)
    (queue : next.queue = state.queue.map change) (keeps : forall item, (change item).id = item.id)
    (pending : forall item, (change item).status = .pending -> item.status = .pending) : next.Obedient settings := by
  refine obedient.resume ⟨frame, paused, change, fun _ => false, queue, ?_, keeps, fun item is => Or.inl (pending item is)⟩
  rw [stopped, List.filter_eq_self.mpr]
  intro id _
  simp only [Bool.and_false, List.any_eq_false.mpr, Bool.false_eq_true, not_false_eq_true, implies_true, Bool.not_false]

theorem resumeItem_obedient (obedient : state.Obedient settings) (id : Nat) : (state.resumeItem id).Obedient settings := by
  unfold resumeItem
  dsimp only
  split
  · exact obedient.resume (mark_resumes ⟨rfl, rfl, rfl, rfl, rfl, rfl⟩ rfl rfl rfl)
  · exact obedient.relabel ⟨rfl, rfl, rfl, rfl, rfl, rfl⟩ rfl rfl rfl (Queue.relabel_id _ _) fun item is =>
      ((Queue.relabel_pending is).resolve_right fun both => by cases both.1).1

theorem followNetwork_obedient (obedient : state.Obedient settings) :
    (state.followNetwork hook).Obedient settings := by
  unfold followNetwork
  split
  · exact obedient.resume (mark_resumes ⟨rfl, rfl, rfl, rfl, rfl, rfl⟩ rfl rfl rfl)
  · exact obedient.relabel ⟨rfl, rfl, rfl, rfl, rfl, rfl⟩ rfl rfl rfl (Queue.relabel_id _ _) fun item is =>
      ((Queue.relabel_pending is).resolve_right fun both => by cases both.1).1

theorem retryItem_obedient (obedient : state.Obedient settings) (id : Nat) :
    (state.retryItem hook id).Obedient settings := by
  unfold retryItem
  split
  · exact obedient
  · cases hook with
    | download => exact obedient.resume (again_resumes state _ none)
    | upload =>
      dsimp only
      split
      · exact obedient
      · split
        · exact obedient
        · split
          · exact obedient.resume (again_resumes state _ none)
          · exact ⟨obedient.separate.same rfl rfl, obedient.counted, obedient.limited, obedient.named,
              obedient.stored, obedient.saving, obedient.stopped, obedient.pending, obedient.taken, obedient.prepared⟩

theorem answerRetry_obedient (obedient : state.Obedient settings) (retry : WaitingRetry) (token : Option Nat) :
    (state.answerRetry retry token).Obedient settings := by
  have left : ({ state with retries := state.retries.erase retry } : HookState).Obedient settings :=
    ⟨obedient.separate.same rfl rfl, obedient.counted, obedient.limited, obedient.named, obedient.stored,
      obedient.saving, obedient.stopped, obedient.pending, obedient.taken, obedient.prepared⟩
  cases token with
  | none => exact left
  | some token => exact left.resume (again_resumes _ _ _)

/-! ## Stopping -/

/-- No start is being prepared, or the command does not disturb it. -/
theorem undisturbed {event : HookEvent} (legal : state.mindful hook settings event = true)
    (other : event ≠ .schedule) {start : Start} (member : start ∈ state.starts)
    (preparing : start.point.isPreparing = true) :
    start.id ∈ state.paused ∨ state.disturbs hook start.id event = false := by
  have all : (state.starts.all fun start => !start.point.isPreparing || decide (start.id ∈ state.paused) ||
      !state.disturbs hook start.id event) = true := by
    cases event with
    | schedule => exact absurd rfl other
    | _ => exact legal
  have one := List.all_eq_true.mp all start member
  rw [preparing, Bool.not_true, Bool.false_or, Bool.or_eq_true, decide_eq_true_eq, Bool.not_eq_true'] at one
  exact one

theorem hasStatus_iff {id : Nat} {statuses : List ItemStatus} :
    state.hasStatus id statuses = true ↔ Exists fun item => item ∈ state.queue ∧ item.id = id ∧ item.status ∈ statuses := by
  unfold hasStatus
  rw [List.any_eq_true]
  constructor
  · rintro ⟨item, member, both⟩
    rw [Bool.and_eq_true, beq_iff_eq, decide_eq_true_eq] at both
    exact ⟨item, member, both⟩
  · rintro ⟨item, member, both⟩
    refine ⟨item, member, ?_⟩
    rw [Bool.and_eq_true, beq_iff_eq, decide_eq_true_eq]
    exact both

theorem without_nothing (queue : Queue) : queue.without (fun _ => false) = queue := by
  unfold Queue.without
  exact List.filter_eq_self.mpr fun _ _ => rfl

/-- The items with a status out of a list. -/
def Shows (state : HookState) (selects : QueueItem -> Bool) (id : Nat) : Prop :=
  Exists fun item => item ∈ state.queue ∧ selects item = true ∧ item.id = id

theorem Shows.queued {id : Nat} (shows_ : state.Shows selects id) :
    id ∈ state.queue.map QueueItem.id := by
  rcases shows_ with ⟨item, member, -, same⟩
  exact List.mem_map.mpr ⟨item, member, same⟩

theorem Shows.of_item {item : QueueItem} (named : Named state.added state.queue)
    (member : item ∈ state.queue) (shows_ : state.Shows selects item.id) : selects item = true := by
  rcases shows_ with ⟨other, inside, selected, same⟩
  rw [← named.unique inside member same]
  exact selected

theorem pauseAll_obedient (obedient : state.Obedient settings) (legal : state.mindful hook settings .pauseAll = true) :
    (state.pauseAll hook).Obedient settings := by
  have stops : state.Stops (state.pauseAll hook)
      (state.Shows fun item => decide (item.status ∈ hook.active ++ hook.idle))
      (state.Shows fun item => decide (item.status ∈ hook.active ++ hook.idle)) := by
    refine ⟨⟨rfl, rfl, rfl, rfl, rfl, rfl⟩, ?_, ?_, fun _ => Shows.queued, fun _ => id,
      Queue.relabel (fun item => decide (item.status ∈ hook.active ++ hook.idle)) .paused, fun _ => false, ?_,
      Queue.relabel_id _ .paused, ?_, fun _ _ impossible => by cases impossible⟩
    · exact fun id member => List.mem_append_right _ member
    · intro id
      show id ∈ state.queue.idsWhere _ ++ state.stopped ↔ _
      rw [List.mem_append, Queue.mem_idsWhere]
      exact Iff.rfl
    · rw [without_nothing]
      rfl
    · intro item member _ is
      rcases Queue.relabel_pending is with ⟨was, unselected⟩ | ⟨impossible, -⟩
      · refine ⟨was, fun shows_ => ?_⟩
        rw [shows_.of_item obedient.named member] at unselected
        cases unselected
      · cases impossible
  refine obedient.stop stops ?_
  rintro start member preparing ⟨item, inside, selected, same⟩
  show start.id ∈ state.queue.idsWhere _ ++ state.paused
  rw [List.mem_append, Queue.mem_idsWhere]
  rcases undisturbed legal (fun is => by cases is) member preparing with noted | calm
  · exact Or.inr noted
  · left
    rw [decide_eq_true_eq, List.mem_append] at selected
    refine ⟨item, inside, ?_, same⟩
    rw [decide_eq_true_eq]
    refine selected.resolve_right fun idle => ?_
    have disturbed : state.hasStatus start.id hook.idle = true := hasStatus_iff.mpr ⟨item, inside, same, idle⟩
    unfold disturbs at calm
    rw [disturbed] at calm
    cases calm

theorem cancel_obedient (obedient : state.Obedient settings)
    (undisturbed : forall start, start ∈ state.starts -> start.point.isPreparing = true ->
      state.Shows (fun item => selects item && decide (item.status ∈ hook.active ++ hook.removable)) start.id ->
        start.id ∈ state.paused) : (state.cancel hook selects).Obedient settings := by
  have stops : state.Stops (state.cancel hook selects)
      (state.Shows fun item => selects item && decide (item.status ∈ hook.active ++ hook.removable))
      (state.Shows fun item => selects item && decide (item.status ∈ hook.active ++ hook.removable)) := by
    refine ⟨⟨rfl, rfl, rfl, rfl, rfl, rfl⟩, fun _ => id, ?_, fun _ => Shows.queued, fun _ => id,
      Queue.relabel (fun item => selects item && decide (item.status ∈ hook.active)) .cancelled,
      fun item => selects item && decide (item.status ∈ hook.removable), rfl, Queue.relabel_id _ .cancelled, ?_, ?_⟩
    · intro id
      show id ∈ state.queue.idsWhere _ ++ state.queue.idsWhere _ ++ state.stopped ↔ _
      rw [List.mem_append, List.mem_append, Queue.mem_idsWhere, Queue.mem_idsWhere]
      constructor
      · rintro ((⟨item, member, selected, same⟩ | ⟨item, member, selected, same⟩) | before)
        · refine Or.inl ⟨item, member, ?_, same⟩
          rw [Bool.and_eq_true, decide_eq_true_eq] at selected ⊢
          exact ⟨selected.1, List.mem_append_left _ selected.2⟩
        · refine Or.inl ⟨item, member, ?_, same⟩
          rw [Bool.and_eq_true, decide_eq_true_eq] at selected ⊢
          exact ⟨selected.1, List.mem_append_right _ selected.2⟩
        · exact Or.inr before
      · rintro (⟨item, member, selected, same⟩ | before)
        · rw [Bool.and_eq_true, decide_eq_true_eq, List.mem_append] at selected
          rcases selected with ⟨selected, active | removable⟩
          · refine Or.inl (Or.inl ⟨item, member, ?_, same⟩)
            rw [Bool.and_eq_true, decide_eq_true_eq]
            exact ⟨selected, active⟩
          · refine Or.inl (Or.inr ⟨item, member, ?_, same⟩)
            rw [Bool.and_eq_true, decide_eq_true_eq]
            exact ⟨selected, removable⟩
        · exact Or.inr before
    · intro item member kept is
      rcases Queue.relabel_pending is with ⟨was, inactive⟩ | ⟨impossible, -⟩
      · refine ⟨was, fun shows_ => ?_⟩
        have selected := shows_.of_item obedient.named member
        rw [Bool.and_eq_true, decide_eq_true_eq, List.mem_append] at selected
        rcases selected with ⟨selected, active | removable⟩
        · rw [selected, Bool.true_and, decide_eq_false_iff_not] at inactive
          exact inactive active
        · dsimp only at kept
          rw [selected, Bool.true_and, decide_eq_false_iff_not] at kept
          exact kept removable
      · cases impossible
    · intro item member out
      refine ⟨item, member, ?_, rfl⟩
      rw [Bool.and_eq_true, decide_eq_true_eq] at out ⊢
      exact ⟨out.1, List.mem_append_right _ out.2⟩
  exact obedient.stop stops undisturbed

theorem cancelAll_obedient (obedient : state.Obedient settings) (legal : state.mindful hook settings .cancelAll = true) :
    (state.cancelAll hook).Obedient settings := by
  refine cancel_obedient obedient ?_
  rintro start member preparing ⟨item, inside, selected, same⟩
  refine (undisturbed legal (fun is => by cases is) member preparing).resolve_right fun calm => ?_
  change decide (item.status ∈ hook.active ++ hook.removable) = true at selected
  rw [decide_eq_true_eq] at selected
  have disturbed : state.hasStatus start.id (hook.active ++ hook.removable) = true :=
    hasStatus_iff.mpr ⟨item, inside, same, selected⟩
  unfold disturbs at calm
  rw [disturbed] at calm
  cases calm

theorem cancelItem_obedient {id : Nat} (obedient : state.Obedient settings)
    (legal : state.mindful hook settings (.cancelItem id) = true) : (state.cancelItem hook id).Obedient settings := by
  refine cancel_obedient obedient ?_
  rintro start member preparing ⟨item, inside, selected, same⟩
  refine (undisturbed legal (fun is => by cases is) member preparing).resolve_right fun calm => ?_
  rw [Bool.and_eq_true, beq_iff_eq, decide_eq_true_eq] at selected
  have disturbed : state.hasStatus start.id (hook.active ++ hook.removable) = true :=
    hasStatus_iff.mpr ⟨item, inside, same, selected.2⟩
  change (id == start.id && state.hasStatus start.id (hook.active ++ hook.removable)) = false at calm
  rw [disturbed, selected.1.symm.trans same, beq_self_eq_true] at calm
  cases calm

theorem clearFinished_obedient (obedient : state.Obedient settings)
    (legal : state.mindful hook settings .clearFinished = true) : (state.clearFinished hook).Obedient settings := by
  have stops : state.Stops (state.clearFinished hook) (fun _ => False)
      (state.Shows fun item => decide (item.status ∈ hook.clearable)) := by
    refine ⟨⟨rfl, rfl, rfl, rfl, rfl, rfl⟩, fun _ => id, fun id => ?_, fun _ => False.elim, fun _ => False.elim, id,
      state.clears hook, ?_, fun _ => rfl, ?_, ?_⟩
    · exact ⟨Or.inr, fun either => either.resolve_left False.elim⟩
    · rw [List.map_id]
      rfl
    · exact fun item _ _ is => ⟨is, id⟩
    · intro item member out
      unfold clears at out
      rw [Bool.and_eq_true] at out
      exact ⟨item, member, out.1, rfl⟩
  refine obedient.stop stops ?_
  rintro start member preparing ⟨item, inside, selected, same⟩
  refine (undisturbed legal (fun is => by cases is) member preparing).resolve_right fun calm => ?_
  rw [decide_eq_true_eq] at selected
  have disturbed : state.hasStatus start.id hook.clearable = true := hasStatus_iff.mpr ⟨item, inside, same, selected⟩
  unfold disturbs at calm
  rw [disturbed] at calm
  cases calm

theorem pauseItem_obedient {id : Nat} (obedient : state.Obedient settings)
    (legal : state.mindful hook settings (.pauseItem id) = true) : (state.pauseItem hook id).Obedient settings := by
  unfold pauseItem
  split
  · exact obedient
  next item found =>
    have queued : id ∈ state.queue.map QueueItem.id :=
      List.mem_map.mpr ⟨item, (Queue.find_some found).1, (Queue.find_some found).2⟩
    have stops : forall next : HookState, state.Frame next -> (forall id, id ∈ state.paused -> id ∈ next.paused) ->
        next.stopped = id :: state.stopped -> next.queue = state.queue.markId id .paused ->
        state.Stops next (fun other => other = id) (fun other => other = id) := by
      intro next frame paused stopped queue
      refine ⟨frame, paused, ?_, ?_, fun _ same => same, Queue.relabel (fun item => item.id == id) .paused, fun _ => false,
        ?_, Queue.relabel_id _ .paused, ?_, fun _ _ impossible => by cases impossible⟩
      · intro other
        rw [stopped, List.mem_cons]
      · intro other same
        rw [same]
        exact queued
      · rw [without_nothing]
        exact queue
      · intro item member _ is
        rcases Queue.relabel_pending is with ⟨was, unselected⟩ | ⟨impossible, -⟩
        · exact ⟨was, fun same => by rw [beq_iff_eq.mpr same] at unselected; cases unselected⟩
        · cases impossible
    split
    · refine obedient.stop (stops _ ⟨rfl, rfl, rfl, rfl, rfl, rfl⟩ (fun _ => List.mem_cons_of_mem _) rfl rfl) ?_
      intro start member preparing same
      show start.id ∈ id :: state.paused
      rw [same]
      exact List.mem_cons_self
    · split
      next idle =>
        refine obedient.stop (stops _ ⟨rfl, rfl, rfl, rfl, rfl, rfl⟩ (fun _ member => member) rfl rfl) ?_
        intro start member preparing same
        refine (undisturbed legal (fun is => by cases is) member preparing).resolve_right fun calm => ?_
        change (id == start.id && (state.queue.find start.id).any fun item =>
          decide (item.status ∈ ItemStatus.waitingForNetwork :: hook.idle)) = false at calm
        rw [same, found, beq_self_eq_true, Bool.true_and, Option.any_some, decide_eq_false_iff_not] at calm
        exact calm idle
      · exact obedient

end HookState

/-! ## Effects -/

namespace HookState

variable {hook : Hook} {settings : HookSettings} {state next : HookState}

theorem mem_begun {item : QueueItem} {start : Start}
    (member : start ∈ state.starts ++ [⟨item.id, .persisting state.requested⟩]) :
    start ∈ state.starts ∨ start = ⟨item.id, .persisting state.requested⟩ := by
  rw [List.mem_append, List.mem_singleton] at member
  exact member

theorem begin_separate (separate : state.Separate) (item : QueueItem) : (begin state item).Separate := by
  unfold begin
  split
  · exact separate
  next unstarted =>
    constructor
    · show ((state.starts ++ [_]).map Start.id).Nodup
      rw [List.map_append, List.nodup_append]
      refine ⟨separate.distinct, List.nodup_singleton _, ?_⟩
      intro id member other single same
      have named : other = item.id := List.mem_singleton.mp single
      rcases List.mem_map.mp member with ⟨start, inside, its⟩
      apply unstarted
      rw [← named, ← same, ← its]
      exact separate.starting start inside
    · intro start member
      rcases mem_begun member with before | now
      · exact List.mem_cons_of_mem _ (separate.starting start before)
      · rw [now]
        exact List.mem_cons_self

theorem begin_obedient {item : QueueItem} (obedient : state.Obedient settings)
    (room : item.id ∈ state.starting ∨ state.starts.countP (·.point.isOpen) + 1 ≤ settings.limit) :
    (begin state item).Obedient settings := by
  have separate := begin_separate obedient.separate item
  revert separate
  unfold begin
  split
  · exact fun _ => obedient
  next unstarted =>
    intro separate
    constructor
    · exact separate
    · show state.activeCount = (state.starts ++ [_]).countP _
      rw [List.countP_append, obedient.counted]
      rfl
    · show (state.starts ++ [_]).countP _ ≤ _
      rw [List.countP_append]
      exact room.resolve_left unstarted
    · exact obedient.named
    · exact obedient.stored
    · exact obedient.saving
    · exact obedient.stopped
    · exact obedient.pending
    · intro start item member taken
      rcases mem_begun member with before | now
      · exact obedient.taken start item before taken
      · rw [now] at taken
        cases taken
    · intro start member preparing
      rcases mem_begun member with before | now
      · exact obedient.prepared start before preparing
      · rw [now] at preparing
        cases preparing

theorem begins_obedient (items : Queue) (obedient : state.Obedient settings)
    (room : state.starts.countP (·.point.isOpen) + (items.filter fun item => decide (item.id ∉ state.starting)).length ≤
      settings.limit) : (items.foldl begin state).Obedient settings := by
  induction items generalizing state with
  | nil => exact obedient
  | cons item items ih =>
    rw [List.filter_cons] at room
    by_cases started : item.id ∈ state.starting
    · rw [if_neg (by rw [decide_eq_true_eq, not_not]; exact started)] at room
      have same : begin state item = state := if_pos started
      rw [List.foldl_cons, same]
      exact ih obedient room
    · rw [if_pos (decide_eq_true started), List.length_cons] at room
      refine ih (begin_obedient obedient (Or.inr (by omega))) ?_
      have after : begin state item =
          { state with
            starting := item.id :: state.starting
            starts := state.starts ++ [⟨item.id, .persisting state.requested⟩] } := if_neg started
      have fewer : (items.filter fun other => decide (other.id ∉ item.id :: state.starting)).length ≤
          (items.filter fun other => decide (other.id ∉ state.starting)).length := by
        refine (List.Sublist.length_le ?_)
        refine List.monotone_filter_right items ?_
        intro other out
        rw [decide_eq_true_eq, List.mem_cons, not_or] at out
        exact decide_eq_true out.2
      rw [after]
      show (state.starts ++ [_]).countP _ + (items.filter _).length ≤ _
      have one : (state.starts ++ [(⟨item.id, .persisting state.requested⟩ : Start)]).countP
          (fun start => start.point.isOpen) = state.starts.countP (·.point.isOpen) + 1 := by
        rw [List.countP_append]
        rfl
      rw [one]
      exact (Nat.add_le_add_left fewer _).trans (by omega)

theorem schedule_obedient (obedient : state.Obedient settings) (legal : state.mindful hook settings .schedule = true) :
    (state.schedule settings).Obedient settings := by
  unfold schedule
  split
  next network =>
    refine begins_obedient _ obedient ?_
    change (!state.network || decide _) = true at legal
    rw [network, Bool.not_true, Bool.false_or] at legal
    exact of_decide_eq_true legal
  · exact obedient

theorem persist_obedient (obedient : state.Obedient settings) : (state.persist hook).Obedient settings := by
  refine ⟨obedient.separate.same rfl rfl, obedient.counted, obedient.limited, obedient.named, obedient.stored, ?_,
    obedient.stopped, obedient.pending, obedient.taken, obedient.prepared⟩
  intro queue member
  rcases List.mem_append.mp member with before | now
  · exact obedient.saving queue before
  · rw [List.mem_singleton.mp now]
    exact obedient.named.serialized hook

theorem wrote_obedient {saved healthy : Bool} (obedient : state.Obedient settings)
    (moved : state.step hook settings (.wrote saved healthy) = some next) : next.Obedient settings := by
  unfold HookState.step at moved
  dsimp only at moved
  cases waiting : state.saves with
  | nil =>
    rw [waiting] at moved
    cases moved
  | cons snapshot rest =>
    rw [waiting] at moved
    cases moved
    have saving := obedient.saving
    rw [waiting] at saving
    refine ⟨obedient.separate.same rfl rfl, obedient.counted, obedient.limited, obedient.named, ?_, ?_,
      obedient.stopped, obedient.pending, obedient.taken, obedient.prepared⟩
    · show Named state.added (if saved then snapshot else state.store)
      split
      · exact saving snapshot List.mem_cons_self
      · exact obedient.stored
    · exact fun queue member => saving queue (List.mem_cons_of_mem _ member)

/-- What a step says about items that are enqueued. -/
structure Fresh (state : HookState) (items : Queue) : Prop where
  distinct : (items.map QueueItem.id).Nodup
  copies : (items.flatMap QueueItem.cleanup).Nodup
  pending : forall item, item ∈ items -> item.status = .pending
  local_ : forall item, item ∈ items -> item.androidStaged = true -> item.url = none
  unknown : forall item, item ∈ items -> item.id ∉ state.added.map QueueItem.id
  unshared : forall item, item ∈ items -> item.androidStaged = true -> forall other, other ∈ state.added ->
    other.path ≠ item.path

theorem fresh_of (items : Queue) (fresh : state.fresh items = true) : state.Fresh items := by
  unfold HookState.fresh at fresh
  rw [Bool.and_eq_true, Bool.and_eq_true, decide_eq_true_eq, decide_eq_true_eq, List.all_eq_true] at fresh
  rcases fresh with ⟨⟨distinct, copies⟩, each⟩
  have parts : forall item, item ∈ items -> item.status = .pending ∧ (item.androidStaged = false ∨ item.url = none) ∧
      forall other, other ∈ state.added -> other.id ≠ item.id ∧ (item.androidStaged = true -> other.path ≠ item.path) := by
    intro item member
    have facts := each item member
    rw [Bool.and_eq_true, Bool.and_eq_true, beq_iff_eq, Bool.or_eq_true, Bool.not_eq_true', Bool.not_eq_true',
      List.any_eq_false, Option.isNone_iff_eq_none] at facts
    refine ⟨facts.1.1, facts.1.2, fun other inside => ?_⟩
    have apart := facts.2 other inside
    rw [Bool.or_eq_true, not_or, beq_iff_eq, Bool.and_eq_true, not_and, beq_iff_eq] at apart
    exact apart
  refine ⟨distinct, copies, fun item member => (parts item member).1, ?_, ?_, ?_⟩
  · intro item member staged
    rcases (parts item member).2.1 with plain | url
    · rw [staged] at plain
      cases plain
    · exact url
  · intro item member known
    rcases List.mem_map.mp known with ⟨other, inside, same⟩
    exact ((parts item member).2.2 other inside).1 same
  · exact fun item member staged other inside => ((parts item member).2.2 other inside).2 staged

theorem Named.enqueue {items : Queue} (named : Named state.added state.queue) (fresh : state.Fresh items) :
    Named (items ++ state.added) (state.queue ++ items) where
  distinct := by
    rw [List.map_append, List.nodup_append]
    refine ⟨named.distinct, fresh.distinct, ?_⟩
    intro id member other itself same
    rcases List.mem_map.mp member with ⟨before, inside, its⟩
    rcases List.mem_map.mp itself with ⟨item, new, names⟩
    apply fresh.unknown item new
    rw [names, ← same, ← its]
    exact named.known before inside
  known := by
    intro item member
    rw [List.map_append]
    rcases List.mem_append.mp member with before | now
    · exact List.mem_append_right _ (named.known item before)
    · exact List.mem_append_left _ (List.mem_map_of_mem now)

theorem enqueue_obedient {items : Queue} (obedient : state.Obedient settings) (fresh : state.Fresh items) :
    (state.enqueue items).Obedient settings := by
  have more : forall id, id ∈ state.added.map QueueItem.id -> id ∈ (items ++ state.added).map QueueItem.id := by
    intro id member
    rw [List.map_append]
    exact List.mem_append_right _ member
  refine ⟨obedient.separate.same rfl rfl, obedient.counted, obedient.limited, obedient.named.enqueue fresh,
    obedient.stored.more, fun queue member => (obedient.saving queue member).more,
    fun id member => more id (obedient.stopped id member), ?_, obedient.taken, ?_⟩
  · intro item member is
    rcases List.mem_append.mp member with before | now
    · exact obedient.pending item before is
    · exact fun held => fresh.unknown item now (obedient.stopped _ held)
  · intro start member preparing
    refine (obedient.prepared start member preparing).imp (fun noted => noted) fun wanted => ⟨?_, wanted.2⟩
    show start.id ∈ (state.queue ++ items).map QueueItem.id
    rw [List.map_append]
    exact List.mem_append_left _ wanted.1

theorem restart_obedient (obedient : state.Obedient settings) : (state.restart hook).Obedient settings where
  separate := ⟨List.nodup_nil, fun _ member => by cases member⟩
  counted := rfl
  limited := Nat.zero_le _
  named := obedient.stored.restored hook
  stored := obedient.stored
  saving := fun _ member => by cases member
  stopped := fun _ member => by cases member
  pending := fun _ _ _ member => by cases member
  taken := fun _ _ member => by cases member
  prepared := fun _ member => by cases member

theorem remoteProgress_obedient {id : Nat} {phase : ItemStatus} (obedient : state.Obedient settings)
    (reports : state.mayReport hook id phase = true) : (state.remoteProgress id phase).Obedient settings := by
  refine obedient.relabel ⟨rfl, rfl, rfl, rfl, rfl, rfl⟩ rfl rfl rfl (Queue.relabel_id _ _) fun item is =>
    ((Queue.relabel_pending is).resolve_right fun both => ?_).1
  unfold mayReport at reports
  rw [both.1, Bool.and_eq_true, Bool.and_eq_true] at reports
  have phases := reports.1.2
  cases phases

end HookState

end Mobile
end TelegramDrive
