import TelegramDrive.Mobile.ObedientRuns

namespace TelegramDrive
namespace Mobile

/-!
# The private copies of uploads

An upload reads from a private copy of the file that the user picked.  The copy is needed
as long as the item may be started again, and while a transfer command reads it.  It is to
be deleted when the upload has succeeded, or when the item leaves the queue.

The queue decides about a copy in several places, and about what may be retried in another.
These places disagree about items that were cancelled or that failed for good.  The
condition on runs leaves out the answers, cancellations, retries and restarts where that
shows.
-/

/-! ## The condition -/

def StartPoint.isInvoking : StartPoint -> Bool
  | .invoking _ => true
  | _ => false

namespace HookState

variable (state : HookState)

/-- What a cancellation removes is not being uploaded from its private copy. -/
def spares (selects : QueueItem -> Bool) : Bool :=
  state.queue.all fun item =>
    !(selects item && decide (item.status ∈ Hook.upload.removable) && item.androidStaged) ||
      state.starts.all fun start => start.id != item.id || !start.point.isInvoking

/-- The deletion of the private copy was requested. -/
def lacks (item : QueueItem) : Bool := item.androidStaged && decide (item.path ∈ state.deletions)

/-- A transfer command for a private copy is not answered after its item was cancelled,
unless a pause explains an error, and its errors are no cancellations and no excess of the
limit on sizes.  A cancellation removes no item that is being uploaded, a passphrase comes
only for what still has its copy, and the process ends only when the saved queue has the
items whose copies are there. -/
def protective : HookEvent -> Bool
  | .advance index reply =>
    (state.starts[index]?).all fun start =>
      match start.point, reply with
      | .invoking item, .succeeded => !item.androidStaged || decide (item.id ∉ state.cancelled)
      | .invoking item, .failed error =>
        !item.androidStaged || decide (item.id ∈ state.networkPaused) || decide (item.id ∈ state.paused) ||
          decide (item.id ∉ state.cancelled) && (failure .upload error).keeps
      | _, _ => true
  | .cancelAll => state.spares fun _ => true
  | .cancelItem id => state.spares fun item => item.id == id
  | .answerRetry index (some _) =>
    (state.retries[index]?).all fun retry => state.queue.all fun item => item.id != retry.id || !state.lacks item
  | .restart =>
    ((state.store.restore .upload).all fun item => !state.lacks item) && state.added.all fun item =>
      !item.androidStaged || state.lacks item || (state.store.restore .upload).any fun other => other.id == item.id
  | _ => true

end HookState

/-! ## The invariant -/

/-- The same upload, maybe under another status, mode or token. -/
structure QueueItem.Same (one two : QueueItem) : Prop where
  id : one.id = two.id
  path : one.path = two.path
  url : one.url = two.url
  androidStaged : one.androidStaged = two.androidStaged

namespace HookState

/-- The item is one that was enqueued. -/
def From (added : Queue) (item : QueueItem) : Prop := Exists fun first => first ∈ added ∧ first.Same item

structure Descends (added queue : Queue) : Prop where
  named : Named added queue
  origin : forall item, item ∈ queue -> From added item

/-- No two uploads have one name or one private copy, and no remote upload has a copy. -/
structure Apart (added : Queue) : Prop where
  names : (added.map QueueItem.id).Nodup
  paths : forall one two, one ∈ added -> two ∈ added -> one.androidStaged = true -> two.androidStaged = true ->
    one.path = two.path -> one.id = two.id
  url : forall item, item ∈ added -> item.androidStaged = true -> item.url = none

/-- The status of an item whose transfer command is under way. -/
def Unsettled (state : HookState) (item : QueueItem) : Prop :=
  item.status ∉ [ItemStatus.success, .error, .waitingForUnlock] ∧ (item.status = .cancelled -> item.id ∈ state.cancelled)

structure Copies (state : HookState) : Prop where
  separate : state.Separate
  apart : Apart state.added
  queue : Descends state.added state.queue
  stored : Descends state.added state.store
  saving : forall queue, queue ∈ state.saves -> Descends state.added queue
  taken : forall start item, start ∈ state.starts -> start.point.item = some item ->
    item.id = start.id ∧ From state.added item
  direct : forall start, start ∈ state.starts -> start.point.isPreparing = false
  ours : forall path, path ∈ state.deletions -> Exists fun item =>
    item ∈ state.added ∧ item.androidStaged = true ∧ item.path = path
  kept : forall item, item ∈ state.queue -> state.lacks item = true -> item.status = .success
  invoked : forall start item, start ∈ state.starts -> start.point = .invoking item -> state.lacks item = false
  unsettled : forall start item, start ∈ state.starts -> start.point.isInvoking = true -> item ∈ state.queue ->
    item.id = start.id -> state.Unsettled item
  released : forall item, item ∈ state.added -> item.androidStaged = true ->
    item.path ∈ state.deletions ∨ Exists fun other => other ∈ state.queue ∧ other.id = item.id ∧ other.status ≠ .success

/-! ## Items and their origins -/

theorem lacks_iff {state : HookState} {item : QueueItem} :
    state.lacks item = true ↔ item.androidStaged = true ∧ item.path ∈ state.deletions := by
  unfold lacks
  rw [Bool.and_eq_true, decide_eq_true_eq]

theorem lacks_congr {state next : HookState} {one two : QueueItem} (same : one.Same two)
    (deletions : next.deletions = state.deletions) : next.lacks two = state.lacks one := by
  unfold lacks
  rw [same.androidStaged, same.path, deletions]

end HookState

namespace QueueItem

theorem Same.refl (item : QueueItem) : item.Same item := ⟨rfl, rfl, rfl, rfl⟩

theorem Same.trans {one two three : QueueItem} (first : one.Same two) (second : two.Same three) : one.Same three :=
  ⟨first.id.trans second.id, first.path.trans second.path, first.url.trans second.url,
    first.androidStaged.trans second.androidStaged⟩

end QueueItem

theorem Queue.relabel_same (selects : QueueItem -> Bool) (status : ItemStatus) (item : QueueItem) :
    item.Same (relabel selects status item) := by
  unfold relabel
  split
  · exact ⟨rfl, rfl, rfl, rfl⟩
  · exact .refl item

namespace HookState

variable {added queue : Queue} {one two item : QueueItem}

theorem From.same {next : QueueItem} (origin : From added item) (same : item.Same next) : From added next := by
  rcases origin with ⟨first, member, its⟩
  exact ⟨first, member, its.trans same⟩

theorem From.more (origin : From added item) (later : Queue) : From (later ++ added) item := by
  rcases origin with ⟨first, member, its⟩
  exact ⟨first, List.mem_append_right _ member, its⟩

theorem From.named (origin : From added one) (apart : Apart added) (member : two ∈ added) (same : one.id = two.id) :
    two.Same one := by
  rcases origin with ⟨first, inside, its⟩
  have equal : first = two := List.inj_on_of_nodup_map apart.names inside member (its.id.trans same)
  rw [← equal]
  exact its

/-- Items with one private copy are one item. -/
theorem From.copy (apart : Apart added) (first : From added one) (second : From added two)
    (stagedOne : one.androidStaged = true) (stagedTwo : two.androidStaged = true) (same : one.path = two.path) :
    one.id = two.id := by
  rcases first with ⟨original, inside, its⟩
  rcases second with ⟨other, member, names⟩
  rw [← its.id, ← names.id]
  refine apart.paths original other inside member ?_ ?_ ?_
  · rw [its.androidStaged, stagedOne]
  · rw [names.androidStaged, stagedTwo]
  · rw [its.path, names.path, same]

namespace Descends

theorem map {change : QueueItem -> QueueItem} (descends : Descends added queue)
    (same : forall item : QueueItem, item.Same (change item)) : Descends added (queue.map change) where
  named := descends.named.map fun item => (same item).id.symm
  origin := by
    intro item member
    rcases List.mem_map.mp member with ⟨before, inside, is⟩
    rw [← is]
    exact (descends.origin before inside).same (same before)

theorem filter (descends : Descends added queue) (selects : QueueItem -> Bool) :
    Descends added (queue.filter selects) where
  named := descends.named.filter selects
  origin := fun item member => descends.origin item (List.mem_of_mem_filter member)

theorem more (descends : Descends added queue) (later : Queue) : Descends (later ++ added) queue where
  named := descends.named.more
  origin := fun item member => (descends.origin item member).more later

theorem serialized (descends : Descends added queue) (hook : Hook) : Descends added (queue.serialize hook) :=
  (descends.filter _).map fun _ => ⟨rfl, rfl, rfl, rfl⟩

theorem restored (descends : Descends added queue) (hook : Hook) : Descends added (queue.restore hook) := by
  refine (descends.filter _).map fun item => ?_
  cases hook
  · exact ⟨rfl, rfl, rfl, rfl⟩
  · exact ⟨rfl, rfl, rfl, rfl⟩

end Descends

/-! ## Commands -/

section

variable {state next : HookState}

/-- What the status of an item may become while its copy is there. -/
def live : List ItemStatus := [.pending, .paused, .waitingForNetwork, .uploading, .downloading]

theorem unsettled_of_live (shown : item.status ∈ live) : state.Unsettled item := by
  have apart : forall status, status ∈ live ->
      status ∉ [ItemStatus.success, .error, .waitingForUnlock] ∧ status ≠ .cancelled := by
    intro status
    cases status <;> decide
  exact ⟨(apart item.status shown).1, fun is => absurd is (apart item.status shown).2⟩

/-- Items are shown under another status, and no copy is touched. -/
structure Relabels (state next : HookState) : Prop where
  frame : state.Frame next
  deletions : next.deletions = state.deletions
  cancelled : next.cancelled = state.cancelled
  items : Exists fun change : QueueItem -> QueueItem => next.queue = state.queue.map change ∧
    (forall item : QueueItem, item.Same (change item)) ∧
    forall item, item ∈ state.queue ->
      (change item).status = item.status ∨ (change item).status ∈ live ∧ state.lacks item = false

theorem Copies.relabel (copies : state.Copies) (relabels : state.Relabels next) : next.Copies := by
  rcases relabels with ⟨⟨starts, starting, -, store, saves, added⟩, deletions, cancelled, change, queue, same, shown⟩
  constructor
  · exact copies.separate.same starts starting
  · rw [added]
    exact copies.apart
  · rw [added, queue]
    exact copies.queue.map same
  · rw [added, store]
    exact copies.stored
  · rw [added, saves]
    exact copies.saving
  · rw [starts, added]
    exact copies.taken
  · rw [starts]
    exact copies.direct
  · rw [added, deletions]
    exact copies.ours
  · intro item member lost
    rw [queue] at member
    rcases List.mem_map.mp member with ⟨before, inside, is⟩
    rw [← is] at lost ⊢
    rw [lacks_congr (same before) deletions] at lost
    rcases shown before inside with still | ⟨-, holds⟩
    · rw [still]
      exact copies.kept before inside lost
    · rw [holds] at lost
      cases lost
  · intro start item member invoking
    rw [starts] at member
    rw [lacks_congr (.refl item) deletions]
    exact copies.invoked start item member invoking
  · intro start item member invoking inside named
    rw [starts] at member
    rw [queue] at inside
    rcases List.mem_map.mp inside with ⟨before, inside, is⟩
    rw [← is] at named ⊢
    rcases shown before inside with still | ⟨now, -⟩
    · have unsettled := copies.unsettled start before member invoking inside ((same before).id.trans named)
      unfold Unsettled at unsettled ⊢
      rw [still, cancelled, ← (same before).id]
      exact unsettled
    · exact unsettled_of_live now
  · intro item member staged
    rw [added] at member
    rw [deletions, queue]
    refine (copies.released item member staged).imp (fun gone => gone) ?_
    rintro ⟨other, inside, named, unfinished⟩
    refine ⟨change other, List.mem_map_of_mem inside, (same other).id.symm.trans named, ?_⟩
    rcases shown other inside with still | ⟨now, -⟩
    · rw [still]
      exact unfinished
    · exact fun is => by rw [is] at now; exact absurd now (by decide)

/-- Items leave the queue, their copies are deleted, and other items are cancelled. -/
structure Removes (state next : HookState) (removed active : QueueItem -> Bool) : Prop where
  frame : state.Frame next
  queue : next.queue = (state.queue.without removed).map (Queue.relabel active .cancelled)
  deletions : next.deletions = (state.queue.filter removed).flatMap QueueItem.cleanup ++ state.deletions
  cancelled : forall id, id ∈ state.cancelled -> id ∈ next.cancelled
  noted : forall item, item ∈ state.queue -> active item = true -> item.id ∈ next.cancelled ∧ item.status ≠ .success
  spared : forall start item, start ∈ state.starts -> start.point.isInvoking = true -> item ∈ state.queue ->
    removed item = true -> item.id = start.id -> item.androidStaged = false

variable {removed active selects : QueueItem -> Bool}

theorem mem_removed_cleanup {path : String} :
    path ∈ (state.queue.filter removed).flatMap QueueItem.cleanup ↔
      Exists fun item => item ∈ state.queue ∧ removed item = true ∧ item.androidStaged = true ∧ item.path = path := by
  rw [List.mem_flatMap]
  constructor
  · rintro ⟨item, member, inside⟩
    rw [List.mem_filter] at member
    unfold QueueItem.cleanup at inside
    split at inside
    next staged => exact ⟨item, member.1, member.2, staged, (List.mem_singleton.mp inside).symm⟩
    · cases inside
  · rintro ⟨item, member, out, staged, same⟩
    refine ⟨item, List.mem_filter.mpr ⟨member, out⟩, ?_⟩
    unfold QueueItem.cleanup
    rw [if_pos staged, same]
    exact List.mem_singleton_self path

theorem Removes.was (removes : state.Removes next removed active)
    (member : item ∈ next.queue) : Exists fun before => before ∈ state.queue ∧ removed before = false ∧
      Queue.relabel active .cancelled before = item := by
  rw [removes.queue] at member
  rcases List.mem_map.mp member with ⟨before, inside, same⟩
  unfold Queue.without at inside
  rw [List.mem_filter, Bool.not_eq_true'] at inside
  exact ⟨before, inside.1, inside.2, same⟩

theorem Removes.lost (removes : state.Removes next removed active)
    (gone : next.lacks item = true) : state.lacks item = true ∨ item.androidStaged = true ∧
      Exists fun other => other ∈ state.queue ∧ removed other = true ∧ other.androidStaged = true ∧
        other.path = item.path := by
  rw [lacks_iff, removes.deletions, List.mem_append, mem_removed_cleanup] at gone
  rcases gone with ⟨staged, now | before⟩
  · exact Or.inr ⟨staged, now⟩
  · exact Or.inl (lacks_iff.mpr ⟨staged, before⟩)

theorem Copies.remove (copies : state.Copies)
    (removes : state.Removes next removed active) : next.Copies := by
  have was : forall item, item ∈ next.queue -> _ := fun item => removes.was
  have lost : forall item, next.lacks item = true -> _ := fun item => removes.lost
  rcases removes with ⟨⟨starts, starting, -, store, saves, added⟩, queue, deletions, cancelled, noted, spared⟩
  constructor
  · exact copies.separate.same starts starting
  · rw [added]
    exact copies.apart
  · rw [added, queue]
    exact (copies.queue.filter _).map (Queue.relabel_same active .cancelled)
  · rw [added, store]
    exact copies.stored
  · rw [added, saves]
    exact copies.saving
  · rw [starts, added]
    exact copies.taken
  · rw [starts]
    exact copies.direct
  · intro path member
    rw [deletions, List.mem_append, mem_removed_cleanup] at member
    rw [added]
    rcases member with ⟨item, inside, -, staged, same⟩ | before
    · rcases copies.queue.origin item inside with ⟨first, enqueued, its⟩
      exact ⟨first, enqueued, its.androidStaged.trans staged, its.path.trans same⟩
    · exact copies.ours path before
  · intro item member gone
    rcases was item member with ⟨before, inside, stays, is⟩
    have same := Queue.relabel_same active .cancelled before
    rw [is] at same
    rcases lost item gone with already | ⟨staged, other, removedInside, out, otherStaged, path⟩
    · have success : before.status = .success := by
        refine copies.kept before inside ?_
        rw [← lacks_congr same rfl]
        exact already
      rw [← is]
      unfold Queue.relabel
      split
      next selected => exact absurd success (noted before inside selected).2
      · exact success
    · have twin : other.id = before.id :=
        (copies.queue.origin other removedInside).copy copies.apart (copies.queue.origin before inside) otherStaged
          (same.androidStaged.trans staged) (path.trans same.path.symm)
      rw [copies.queue.named.unique removedInside inside twin, stays] at out
      cases out
  · intro start item member invoking
    rw [starts] at member
    rw [Bool.eq_false_iff]
    intro gone
    rcases lost item gone with already | ⟨staged, other, removedInside, out, otherStaged, path⟩
    · rw [copies.invoked start item member invoking] at already
      cases already
    · rcases copies.taken start item member (by rw [invoking]; rfl) with ⟨named, origin⟩
      have twin := (copies.queue.origin other removedInside).copy copies.apart origin otherStaged staged path
      have plain := spared start other member (by rw [invoking]; rfl) removedInside out (twin.trans named)
      rw [plain] at otherStaged
      cases otherStaged
  · intro start item member invoking inside named
    rw [starts] at member
    rcases was item inside with ⟨before, there, -, is⟩
    have same := Queue.relabel_same active .cancelled before
    rw [is] at same
    have unsettled := copies.unsettled start before member invoking there (same.id.trans named)
    unfold Unsettled at unsettled ⊢
    rw [← same.id, ← is]
    unfold Queue.relabel
    split
    next selected =>
      have unfinished : ItemStatus.cancelled ∉ [ItemStatus.success, .error, .waitingForUnlock] := by
        decide
      exact ⟨unfinished, fun _ => (noted before there selected).1⟩
    · exact ⟨unsettled.1, fun is => cancelled _ (unsettled.2 is)⟩
  · intro item member staged
    rw [added] at member
    rw [deletions, List.mem_append, mem_removed_cleanup]
    rcases copies.released item member staged with gone | ⟨other, inside, named, unfinished⟩
    · exact Or.inl (Or.inr gone)
    · have same := (copies.queue.origin other inside).named copies.apart member named
      cases out : removed other with
      | true => exact Or.inl (Or.inl ⟨other, inside, out, same.androidStaged.symm.trans staged, same.path.symm⟩)
      | false =>
        refine Or.inr ⟨Queue.relabel active .cancelled other, ?_, ?_, ?_⟩
        · rw [queue]
          refine List.mem_map_of_mem ?_
          unfold Queue.without
          rw [List.mem_filter, Bool.not_eq_true']
          exact ⟨inside, out⟩
        · exact (Queue.relabel_same active .cancelled other).id.symm.trans named
        · unfold Queue.relabel
          split
          · exact fun is => by cases is
          · exact unfinished

/-! ## The commands one by one -/

theorem Copies.there (copies : state.Copies) (inside : item ∈ state.queue)
    (unfinished : item.status ≠ .success) : state.lacks item = false := by
  rw [Bool.eq_false_iff]
  exact fun lost => unfinished (copies.kept item inside lost)

theorem mark_relabels {status : ItemStatus} (frame : state.Frame next)
    (deletions : next.deletions = state.deletions) (cancelled : next.cancelled = state.cancelled)
    (queue : next.queue = state.queue.mark selects status) (shown : status ∈ live)
    (there : forall item, item ∈ state.queue -> selects item = true -> state.lacks item = false) :
    state.Relabels next := by
  refine ⟨frame, deletions, cancelled, _, queue, Queue.relabel_same selects status, ?_⟩
  intro item member
  unfold Queue.relabel
  split
  next selected => exact Or.inr ⟨shown, there item member selected⟩
  · exact Or.inl rfl

theorem again_relabels (state : HookState) (token : Option Nat)
    (there : forall item, item ∈ state.queue -> selects item = true -> state.lacks item = false) :
    state.Relabels (state.again selects token) := by
  refine ⟨⟨rfl, rfl, rfl, rfl, rfl, rfl⟩, rfl, rfl, _, rfl, ?_, ?_⟩
  · intro item
    split
    · exact ⟨rfl, rfl, rfl, rfl⟩
    · exact .refl item
  · intro item member
    split
    next selected => exact Or.inr ⟨List.mem_cons_self, there item member selected⟩
    · exact Or.inl rfl

theorem pauseAll_copies (copies : state.Copies) : (state.pauseAll .upload).Copies := by
  refine copies.relabel (mark_relabels ⟨rfl, rfl, rfl, rfl, rfl, rfl⟩ rfl rfl rfl (by decide) ?_)
  intro item member selected
  refine copies.there member fun success => ?_
  rw [success] at selected
  cases selected

theorem resumeAll_copies (copies : state.Copies) : state.resumeAll.Copies := by
  refine copies.relabel (mark_relabels ⟨rfl, rfl, rfl, rfl, rfl, rfl⟩ rfl rfl rfl (by decide) ?_)
  intro item member selected
  refine copies.there member fun success => ?_
  rw [success] at selected
  cases selected

theorem endCooldown_copies (copies : state.Copies) (id : Nat) : (state.endCooldown id).Copies := by
  refine copies.relabel (mark_relabels ⟨rfl, rfl, rfl, rfl, rfl, rfl⟩ rfl rfl rfl (by decide) ?_)
  intro item member selected
  refine copies.there member fun success => ?_
  rw [success, Bool.and_eq_true] at selected
  cases selected.2

theorem followNetwork_copies (copies : state.Copies) : (state.followNetwork .upload).Copies := by
  unfold followNetwork
  split
  · refine copies.relabel (mark_relabels ⟨rfl, rfl, rfl, rfl, rfl, rfl⟩ rfl rfl rfl (by decide) ?_)
    intro item member selected
    refine copies.there member fun success => ?_
    rw [success] at selected
    cases selected
  · refine copies.relabel (mark_relabels ⟨rfl, rfl, rfl, rfl, rfl, rfl⟩ rfl rfl rfl (by decide) ?_)
    intro item member selected
    refine copies.there member fun success => ?_
    rw [success] at selected
    cases selected

theorem resumeItem_copies (copies : state.Copies) (id : Nat) : (state.resumeItem id).Copies := by
  have there : forall item, item ∈ state.queue -> (item.id == id && item.status == .paused) = true ->
      state.lacks item = false := by
    intro item member selected
    refine copies.there member fun success => ?_
    rw [success, Bool.and_eq_true] at selected
    cases selected.2
  unfold resumeItem
  dsimp only
  split
  · exact copies.relabel (mark_relabels ⟨rfl, rfl, rfl, rfl, rfl, rfl⟩ rfl rfl rfl (by decide) there)
  · exact copies.relabel (mark_relabels ⟨rfl, rfl, rfl, rfl, rfl, rfl⟩ rfl rfl rfl (by decide) there)

theorem Copies.found {id : Nat} {other : QueueItem} (copies : state.Copies) (found : state.queue.find id = some item)
    (member : other ∈ state.queue) (named : (other.id == id) = true) : other = item :=
  copies.queue.named.unique member (Queue.find_some found).1
    ((beq_iff_eq.mp named).trans (Queue.find_some found).2.symm)

theorem pauseItem_copies (copies : state.Copies) (id : Nat) : (state.pauseItem .upload id).Copies := by
  unfold pauseItem
  split
  · exact copies
  next item found =>
    have there : item.status ≠ .success -> forall other, other ∈ state.queue -> (other.id == id) = true ->
        state.lacks other = false := by
      intro unfinished other member named
      rw [copies.found found member named]
      exact copies.there (Queue.find_some found).1 unfinished
    split
    next active =>
      refine copies.relabel (mark_relabels ⟨rfl, rfl, rfl, rfl, rfl, rfl⟩ rfl rfl rfl (by decide) (there ?_))
      intro success
      rw [success] at active
      exact absurd active (by decide)
    · split
      next idle =>
        refine copies.relabel (mark_relabels ⟨rfl, rfl, rfl, rfl, rfl, rfl⟩ rfl rfl rfl (by decide) (there ?_))
        intro success
        rw [success] at idle
        exact absurd idle (by decide)
      · exact copies

theorem Copies.unchanged (copies : state.Copies) (frame : state.Frame next) (deletions : next.deletions = state.deletions)
    (cancelled : next.cancelled = state.cancelled) (queue : next.queue = state.queue) : next.Copies := by
  refine copies.relabel ⟨frame, deletions, cancelled, fun item => item, ?_, QueueItem.Same.refl, fun _ _ => Or.inl rfl⟩
  rw [queue, List.map_id']

theorem retryItem_copies (copies : state.Copies) (id : Nat) : (state.retryItem .upload id).Copies := by
  unfold retryItem
  split
  · exact copies
  · dsimp only
    split
    · exact copies
    next item found =>
      split
      · exact copies
      next retries =>
        split
        · refine copies.relabel (again_relabels state none ?_)
          intro other member named
          rw [copies.found found member named]
          refine copies.there (Queue.find_some found).1 fun success => retries ?_
          rw [success]
          exact fun impossible => absurd impossible (by decide)
        · exact copies.unchanged ⟨rfl, rfl, rfl, rfl, rfl, rfl⟩ rfl rfl rfl

theorem answerRetry_copies {index : Nat} {retry : WaitingRetry} {token : Option Nat} (copies : state.Copies)
    (found : state.retries[index]? = some retry) (legal : state.protective (.answerRetry index token) = true) :
    (state.answerRetry retry token).Copies := by
  have left : ({ state with retries := state.retries.erase retry } : HookState).Copies :=
    copies.unchanged ⟨rfl, rfl, rfl, rfl, rfl, rfl⟩ rfl rfl rfl
  cases token with
  | none => exact left
  | some token =>
    refine left.relabel (again_relabels _ _ ?_)
    intro item member named
    change ((state.retries[index]?).all fun retry =>
      state.queue.all fun item => item.id != retry.id || !state.lacks item) = true at legal
    rw [found, Option.all_some, List.all_eq_true] at legal
    have one := legal item member
    rw [Bool.or_eq_true, bne_iff_ne, Bool.not_eq_true'] at one
    exact one.resolve_left fun apart => apart (beq_iff_eq.mp named)

theorem remoteProgress_copies {id : Nat} {phase : ItemStatus} (copies : state.Copies)
    (reports : state.mayReport .upload id phase = true) : (state.remoteProgress id phase).Copies := by
  unfold mayReport at reports
  rw [Bool.and_eq_true, Bool.and_eq_true, Bool.or_eq_true, beq_iff_eq, beq_iff_eq, List.any_eq_true] at reports
  rcases reports with ⟨⟨-, phases⟩, start, member, reporting⟩
  have shown : phase ∈ live := by
    rcases phases with is | is
    · rw [is]
      decide
    · rw [beq_iff_eq.mp is]
      decide
  refine copies.relabel (mark_relabels ⟨rfl, rfl, rfl, rfl, rfl, rfl⟩ rfl rfl rfl shown ?_)
  intro item inside selected
  rw [Bool.and_eq_true, beq_iff_eq] at selected reporting
  -- a remote upload has no private copy
  have remote : Exists fun its => start.point.item = some its ∧ its.url.isSome = true := by
    rcases start with ⟨other, point⟩
    cases point <;> first | exact ⟨_, rfl, reporting.2⟩ | exact absurd reporting.2 Bool.false_ne_true
  rcases remote with ⟨its, holds, url⟩
  rcases copies.taken start its member holds with ⟨named, first, enqueued, same⟩
  have twin := (copies.queue.origin item inside).named copies.apart enqueued
    (selected.1.trans (reporting.1.symm.trans (named.symm.trans same.id.symm)))
  rw [Bool.eq_false_iff]
  intro lost
  have plain := copies.apart.url first enqueued (twin.androidStaged.trans (lacks_iff.mp lost).1)
  rw [← same.url, plain] at url
  cases url

theorem cancel_copies (copies : state.Copies) (legal : state.spares selects = true) :
    (state.cancel .upload selects).Copies := by
  refine copies.remove ⟨⟨rfl, rfl, rfl, rfl, rfl, rfl⟩, rfl, rfl, fun id => List.mem_append_right _, ?_, ?_⟩
  · intro item member active
    refine ⟨List.mem_append_left _ (Queue.mem_idsWhere.mpr ⟨item, member, active, rfl⟩), fun success => ?_⟩
    rw [success, Bool.and_eq_true] at active
    exact absurd active.2 (by decide)
  · intro start item member invoking inside out named
    unfold spares at legal
    have one := List.all_eq_true.mp legal item inside
    rw [out, Bool.true_and, Bool.or_eq_true, Bool.not_eq_true'] at one
    refine one.resolve_right fun calm => ?_
    have apart := List.all_eq_true.mp calm start member
    rw [invoking, Bool.not_true, Bool.or_false, bne_iff_ne] at apart
    exact apart named.symm

theorem clearFinished_copies (copies : state.Copies) : (state.clearFinished .upload).Copies := by
  have removes : state.Removes (state.clearFinished .upload) (state.clears .upload) fun _ => false := by
    refine ⟨⟨rfl, rfl, rfl, rfl, rfl, rfl⟩, ?_, rfl, fun _ => id, ?_, ?_⟩
    · refine (List.map_id' _).symm.trans (List.map_congr_left fun item _ => ?_)
      rfl
    · intro item _ impossible
      cases impossible
    · intro start item member invoking inside out named
      have unsettled := copies.unsettled start item member invoking inside named
      unfold clears at out
      rw [Bool.and_eq_true, Bool.or_eq_true, decide_eq_true_eq, Bool.not_eq_true', decide_eq_false_iff_not] at out
      rcases out with ⟨finished, hook | unnoted⟩
      · cases hook
      · change item.status ∈ [ItemStatus.success, .error, .cancelled] at finished
        rw [List.mem_cons, List.mem_cons, List.mem_singleton] at finished
        rcases finished with is | is | is
        · exact absurd (List.mem_cons.mpr (Or.inl is)) unsettled.1
        · exact absurd (List.mem_cons_of_mem _ (List.mem_cons.mpr (Or.inl is))) unsettled.1
        · exact absurd (unsettled.2 is) unnoted
  exact copies.remove removes

end

end HookState

end Mobile
end TelegramDrive
