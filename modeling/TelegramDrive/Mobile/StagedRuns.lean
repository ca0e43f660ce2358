import TelegramDrive.Mobile.StagedCopies
import Mathlib.Data.List.Pairwise

namespace TelegramDrive
namespace Mobile

/-!
# Private copies over whole runs

A start of an upload waits for the queue to be saved, for the transfer command, and for the
deletion of its copy.  It changes its own item only, and a step that requests a deletion is
the answer to the command.
-/

namespace HookState

variable {settings : HookSettings} {state next : HookState} {start : Start}

/-! ## What a start does to the copies -/

structure CopyMoves (state : HookState) (start : Start) (outcome : Option Start × HookState) : Prop where
  store : outcome.2.store = state.store
  saves : outcome.2.saves = state.saves
  added : outcome.2.added = state.added
  starting : outcome.2.starting = state.starting ∨
    outcome.1 = none ∧ outcome.2.starting = withoutId state.starting start.id
  named : forall later, outcome.1 = some later -> later.id = start.id
  direct : forall later, outcome.1 = some later -> later.point.isPreparing = false
  taken : forall later item, outcome.1 = some later -> later.point.item = some item ->
    item.id = start.id ∧ From state.added item
  queue : Exists fun change : QueueItem -> QueueItem => outcome.2.queue = state.queue.map change ∧
    (forall item : QueueItem, item.Same (change item)) ∧ forall item, item.id ≠ start.id -> change item = item
  cancelled : forall id, id ≠ start.id -> id ∈ state.cancelled -> id ∈ outcome.2.cancelled
  deletions : outcome.2.deletions = state.deletions ∨ Exists fun item => start.point = .invoking item ∧
    item.androidStaged = true ∧ outcome.2.deletions = item.path :: state.deletions
  kept : forall item, item ∈ outcome.2.queue -> item.id = start.id -> outcome.2.lacks item = true -> item.status = .success
  released : forall item, item ∈ outcome.2.queue -> item.id = start.id -> item.androidStaged = true ->
    item.status = .success -> item.path ∈ outcome.2.deletions
  invoked : forall later item, outcome.1 = some later -> later.point = .invoking item -> outcome.2.lacks item = false
  unsettled : forall later item, outcome.1 = some later -> later.point.isInvoking = true -> item ∈ outcome.2.queue ->
    item.id = start.id -> outcome.2.Unsettled item

variable {item : QueueItem}

/-- The copy of an upload that succeeded is gone. -/
theorem Copies.gone (copies : state.Copies) (inside : item ∈ state.queue)
    (staged : item.androidStaged = true) (success : item.status = .success) : item.path ∈ state.deletions := by
  rcases copies.queue.origin item inside with ⟨first, enqueued, same⟩
  rcases copies.released first enqueued (same.androidStaged.trans staged) with gone | ⟨other, there, named, unfinished⟩
  · rw [← same.path]
    exact gone
  · rw [copies.queue.named.unique there inside (named.trans same.id)] at unfinished
    exact absurd success unfinished

theorem end_moves {target : Option Start} {change : QueueItem -> QueueItem} (copies : state.Copies)
    (ends : forall later, target = some later -> later = ⟨start.id, .closing⟩)
    (store : next.store = state.store) (saves : next.saves = state.saves) (added : next.added = state.added)
    (starting : next.starting = state.starting ∨ target = none ∧ next.starting = withoutId state.starting start.id)
    (cancelled : forall id, id ≠ start.id -> id ∈ state.cancelled -> id ∈ next.cancelled)
    (deletions : next.deletions = state.deletions) (queue : next.queue = state.queue.map change)
    (same : forall item : QueueItem, item.Same (change item))
    (others : forall item, item.id ≠ start.id -> change item = item)
    (its : forall item, item ∈ state.queue -> item.id = start.id -> (change item).status = item.status ∨
      state.lacks item = false ∧ ((change item).status ≠ .success ∨ item.androidStaged = false)) :
    state.CopyMoves start (target, next) := by
  constructor
  · exact store
  · exact saves
  · exact added
  · exact starting
  · intro later is
    rw [ends later is]
  · intro later is
    rw [ends later is]
    rfl
  · intro later item is holds
    rw [ends later is] at holds
    cases holds
  · exact ⟨change, queue, same, others⟩
  · exact cancelled
  · exact Or.inl deletions
  · intro item member named lost
    rw [show (target, next).2.queue = state.queue.map change from queue] at member
    rcases List.mem_map.mp member with ⟨before, inside, is⟩
    rw [← is] at named lost ⊢
    rw [lacks_congr (same before) deletions] at lost
    rcases its before inside ((same before).id.trans named) with still | ⟨there, -⟩
    · rw [still]
      exact copies.kept before inside lost
    · rw [there] at lost
      cases lost
  · intro item member named staged success
    rw [show (target, next).2.queue = state.queue.map change from queue] at member
    rcases List.mem_map.mp member with ⟨before, inside, is⟩
    rw [← is] at named staged success ⊢
    rw [show (target, next).2.deletions = state.deletions from deletions, ← (same before).path]
    rw [← (same before).androidStaged] at staged
    rcases its before inside ((same before).id.trans named) with still | ⟨-, unfinished | plain⟩
    · exact copies.gone inside staged (still.symm.trans success)
    · exact absurd success unfinished
    · rw [plain] at staged
      cases staged
  · intro later item is invoking
    rw [ends later is] at invoking
    cases invoking
  · intro later item is invoking
    rw [ends later is] at invoking
    cases invoking

theorem Copies.advance {target : Option Start} {starts : List Start} (copies : state.Copies)
    (turn : state.Turn start target starts) (moves : state.CopyMoves start (target, next)) :
    ({ next with starts := starts } : HookState).Copies := by
  have cases_ : forall other, other ∈ starts -> other ∈ state.starts ∧ other.id ≠ start.id ∨ target = some other :=
    fun _ => turn.cases copies.separate
  rcases moves.queue with ⟨change, queue, same, others⟩
  have added : next.added = state.added := moves.added
  -- an item under another name keeps its copy
  have elsewhere : forall item : QueueItem, From state.added item -> item.id ≠ start.id -> next.lacks item = true ->
      state.lacks item = true := by
    intro item origin apart lost
    rw [lacks_iff] at lost ⊢
    refine ⟨lost.1, ?_⟩
    rcases moves.deletions with still | ⟨its, invoking, staged, now⟩
    · rw [← show next.deletions = state.deletions from still]
      exact lost.2
    · have gone := lost.2
      rw [show next.deletions = its.path :: state.deletions from now, List.mem_cons] at gone
      refine gone.resolve_left fun path => apart ?_
      rcases copies.taken start its turn.mem (by rw [invoking]; rfl) with ⟨named, first⟩
      exact (origin.copy copies.apart first lost.1 staged path).trans named
  constructor
  · exact turn.separate copies.separate moves.starting
  · show Apart next.added
    rw [added]
    exact copies.apart
  · show Descends next.added next.queue
    rw [added, queue]
    exact copies.queue.map same
  · show Descends next.added next.store
    rw [added, show next.store = state.store from moves.store]
    exact copies.stored
  · show forall queue, queue ∈ next.saves -> Descends next.added queue
    rw [added, show next.saves = state.saves from moves.saves]
    exact copies.saving
  · intro other item member holds
    show item.id = other.id ∧ From next.added item
    rw [added]
    rcases cases_ other member with still | now
    · exact copies.taken other item still.1 holds
    · rw [moves.named other now]
      exact moves.taken other item now holds
  · intro other member
    rcases cases_ other member with still | now
    · exact copies.direct other still.1
    · exact moves.direct other now
  · intro path member
    show Exists fun item => item ∈ next.added ∧ _
    rw [added]
    rcases moves.deletions with still | ⟨its, invoking, staged, now⟩
    · exact copies.ours path (by rw [← show next.deletions = state.deletions from still]; exact member)
    · rcases List.mem_cons.mp (show path ∈ its.path :: state.deletions from now ▸ member) with is | before
      · rcases copies.taken start its turn.mem (by rw [invoking]; rfl) with ⟨-, first, enqueued, itself⟩
        exact ⟨first, enqueued, itself.androidStaged.trans staged, itself.path.trans is.symm⟩
      · exact copies.ours path before
  · intro item member lost
    rcases Classical.em (item.id = start.id) with own | apart
    · exact moves.kept item member own lost
    · have origin := (copies.queue.map same).origin item (queue ▸ member)
      have before := elsewhere item origin apart lost
      rcases List.mem_map.mp (show item ∈ state.queue.map change from queue ▸ member) with ⟨old, inside, is⟩
      have kept : change old = old := others old fun named => apart (by rw [← is, ← (same old).id]; exact named)
      rw [kept] at is
      rw [← is] at before ⊢
      exact copies.kept old inside before
  · intro other item member invoking
    rcases cases_ other member with still | now
    · rw [Bool.eq_false_iff]
      intro lost
      rcases copies.taken other item still.1 (by rw [invoking]; rfl) with ⟨named, origin⟩
      have before := elsewhere item origin (fun own => still.2 (named.symm.trans own)) lost
      rw [copies.invoked other item still.1 invoking] at before
      cases before
    · exact moves.invoked other item now invoking
  · intro other item member invoking inside named
    rcases cases_ other member with still | now
    · rcases List.mem_map.mp (show item ∈ state.queue.map change from queue ▸ inside) with ⟨old, there, is⟩
      have oldNamed : old.id = other.id := by
        rw [(same old).id, is]
        exact named
      have kept : change old = old := others old fun own => still.2 (oldNamed.symm.trans own)
      rw [kept] at is
      have unsettled := copies.unsettled other old still.1 invoking there oldNamed
      rw [is] at unsettled
      refine ⟨unsettled.1, fun cancelled => moves.cancelled item.id (fun own => still.2 (named.symm.trans own)) ?_⟩
      exact unsettled.2 cancelled
    · exact moves.unsettled other item now invoking inside (named.trans (moves.named other now))
  · intro item member staged
    have enqueued : item ∈ state.added := added ▸ member
    have grows : item.path ∈ state.deletions -> item.path ∈ next.deletions := by
      intro gone
      rcases moves.deletions with still | ⟨its, -, -, now⟩
      · rw [show next.deletions = state.deletions from still]
        exact gone
      · rw [show next.deletions = its.path :: state.deletions from now]
        exact List.mem_cons_of_mem _ gone
    rcases copies.released item enqueued staged with gone | ⟨other, inside, named, unfinished⟩
    · exact Or.inl (grows gone)
    · have there : change other ∈ next.queue := by
        rw [queue]
        exact List.mem_map_of_mem inside
      have itself := (copies.queue.origin other inside).named copies.apart enqueued named
      rcases Classical.em ((change other).status = .success) with success | unfinishedNow
      · rcases Classical.em (other.id = start.id) with own | apart
        · left
          have gone := moves.released (change other) there ((same other).id.symm.trans own)
            ((same other).androidStaged.symm.trans (itself.androidStaged.symm.trans staged)) success
          rw [← (same other).path, ← itself.path] at gone
          exact gone
        · rw [others other apart] at success
          exact absurd success unfinished
      · exact Or.inr ⟨change other, there, (same other).id.symm.trans named, unfinishedNow⟩

/-! ## The functions of a start -/

theorem relabel_elsewhere {id : Nat} {status : ItemStatus} (apart : item.id ≠ id) :
    Queue.relabel (fun other => other.id == id) status item = item :=
  if_neg fun named => apart (beq_iff_eq.mp named)

theorem relabel_here {id : Nat} {status : ItemStatus} (named : item.id = id) :
    (Queue.relabel (fun other => other.id == id) status item).status = status := by
  unfold Queue.relabel
  rw [if_pos (beq_iff_eq.mpr named)]

theorem leave_moves {id : Nat} (copies : state.Copies) (named : id = start.id) (store : next.store = state.store) (saves : next.saves = state.saves)
    (added : next.added = state.added) (starting : next.starting = state.starting)
    (cancelled : forall id, id ≠ start.id -> id ∈ state.cancelled -> id ∈ next.cancelled)
    (deletions : next.deletions = state.deletions) (queue : next.queue = state.queue) :
    state.CopyMoves start (some ⟨id, .closing⟩, next) := by
  have same : next.queue = state.queue.map fun item => item := by
    rw [queue, List.map_id']
  refine end_moves copies ?_ store saves added (Or.inl starting) cancelled deletions same QueueItem.Same.refl
    (fun _ _ => rfl) fun _ _ _ => Or.inl rfl
  rintro later ⟨⟩
  rw [named]

/-- The transfer command is issued for an item that is pending. -/
theorem invoke_moves {status : ItemStatus} (copies : state.Copies) (inside : item ∈ state.queue)
    (named : item.id = start.id) (pending : item.status = .pending) (shown : status ∈ live) :
    state.CopyMoves start ((state.counted item.id status).invoke item) := by
  have there := copies.there inside fun success => by rw [pending] at success; cases success
  have shownHere : forall other, other ∈ state.queue.markId item.id status -> other.id = start.id ->
      other.status = status := by
    intro other member its
    rcases List.mem_map.mp member with ⟨before, -, is⟩
    rw [← is] at its ⊢
    rw [Queue.relabel_id] at its
    exact relabel_here (its.trans named.symm)
  constructor
  · rfl
  · rfl
  · rfl
  · exact Or.inl rfl
  · rintro later ⟨⟩
    exact named
  · rintro later ⟨⟩
    rfl
  · rintro later other ⟨⟩ ⟨⟩
    exact ⟨named, copies.queue.origin item inside⟩
  · refine ⟨_, rfl, Queue.relabel_same _ status, fun other apart => ?_⟩
    exact relabel_elsewhere fun its => apart (its.trans named)
  · exact fun _ _ member => member
  · exact Or.inl rfl
  · intro other member its lost
    rcases List.mem_map.mp member with ⟨before, was, is⟩
    have same := Queue.relabel_same (fun candidate => candidate.id == item.id) status before
    rw [is] at same
    have itself := copies.queue.named.unique was inside (same.id.trans (its.trans named.symm))
    have before_ : state.lacks before = true := by
      rw [← lacks_congr same (show ((state.counted item.id status).invoke item).2.deletions = state.deletions from rfl)]
      exact lost
    rw [itself, there] at before_
    cases before_
  · intro other member its staged success
    rw [shownHere other member its] at success
    rw [success] at shown
    exact absurd shown (by decide)
  · rintro later other ⟨⟩ ⟨⟩
    exact (lacks_congr (.refl item) rfl).trans there
  · rintro later other ⟨⟩ - member its
    refine unsettled_of_live ?_
    rw [shownHere other member its]
    exact shown

theorem processItem_copies (copies : state.Copies) (inside : item ∈ state.queue)
    (named : item.id = start.id) (pending : item.status = .pending) :
    state.CopyMoves start (state.processItem .upload settings item) := by
  have there := copies.there inside fun success => by rw [pending] at success; cases success
  unfold processItem
  dsimp only
  split
  · rw [named]
    refine end_moves copies ?_ rfl rfl rfl (Or.inl rfl) (fun _ _ member => member) rfl rfl ?_ ?_ ?_
    · rintro later ⟨⟩
      rfl
    · intro other
      split
      · exact ⟨rfl, rfl, rfl, rfl⟩
      · exact .refl other
    · exact fun other apart => if_neg apart
    · intro other member its
      right
      rw [copies.queue.named.unique member inside (its.trans named.symm)]
      refine ⟨there, Or.inl ?_⟩
      rw [if_pos named]
      exact fun is => by cases is
  · refine invoke_moves copies inside named pending ?_
    split
    · decide
    · decide

theorem recheck_copies (copies : state.Copies) : state.CopyMoves start (state.recheck .upload settings start) := by
  have leaves : state.CopyMoves start (some ⟨start.id, .closing⟩, state) :=
    leave_moves copies rfl rfl rfl rfl rfl (fun _ _ member => member) rfl rfl
  unfold recheck
  split
  · exact leaves
  next current found =>
    have inside := Queue.find_some found
    split
    · exact leaves
    next ready =>
      rw [Bool.or_eq_true, decide_eq_true_eq, not_or, not_not] at ready
      split
      · refine end_moves copies ?_ rfl rfl rfl (Or.inl rfl) (fun _ _ member => member) rfl rfl
          (Queue.relabel_same _ .error) (fun _ => relabel_elsewhere) ?_
        · rintro later ⟨⟩
          rfl
        · intro other member its
          right
          rw [copies.queue.named.unique member inside.1 (its.trans inside.2.symm), relabel_here inside.2]
          refine ⟨copies.there inside.1 fun success => ?_, Or.inl fun is => by cases is⟩
          rw [ready.1] at success
          cases success
      · exact processItem_copies copies inside.1 inside.2 ready.1

theorem Copies.twin {other : QueueItem} (copies : state.Copies) (origin : From state.added item)
    (inside : other ∈ state.queue) (named : other.id = item.id) : item.Same other := by
  rcases origin with ⟨first, enqueued, same⟩
  have its := (copies.queue.origin other inside).named copies.apart enqueued (named.trans same.id.symm)
  exact ⟨same.id.symm.trans its.id, same.path.symm.trans its.path, same.url.symm.trans its.url,
    same.androidStaged.symm.trans its.androidStaged⟩

theorem delete_moves {paused networkPaused : List Nat} (copies : state.Copies)
    (inside : start ∈ state.starts) (invoking : start.point = .invoking item) (staged : item.androidStaged = true) :
    state.CopyMoves start
      (some ⟨item.id, .deleting item⟩,
        { state with
          queue := state.queue.markId item.id .success
          paused := paused
          networkPaused := networkPaused
          deletions := item.cleanup ++ state.deletions }) := by
  rcases copies.taken start item inside (by rw [invoking]; rfl) with ⟨named, origin⟩
  have cleanup : item.cleanup ++ state.deletions = item.path :: state.deletions := by
    unfold QueueItem.cleanup
    rw [if_pos staged]
    rfl
  rw [cleanup]
  constructor
  · rfl
  · rfl
  · rfl
  · exact Or.inl rfl
  · rintro later ⟨⟩
    exact named
  · rintro later ⟨⟩
    rfl
  · rintro later other ⟨⟩ ⟨⟩
    exact ⟨named, origin⟩
  · refine ⟨_, rfl, Queue.relabel_same _ .success, fun other apart => ?_⟩
    exact relabel_elsewhere fun its => apart (its.trans named)
  · exact fun _ _ member => member
  · exact Or.inr ⟨item, invoking, staged, rfl⟩
  · intro other member its _
    rcases List.mem_map.mp member with ⟨before, -, is⟩
    rw [← is] at its ⊢
    rw [Queue.relabel_id] at its
    exact relabel_here (its.trans named.symm)
  · intro other member its _ _
    rcases List.mem_map.mp member with ⟨before, was, is⟩
    have same := Queue.relabel_same (fun candidate => candidate.id == item.id) .success before
    rw [is] at same
    have twin := copies.twin origin was (same.id.trans (its.trans named.symm))
    rw [← same.path, ← twin.path]
    exact List.mem_cons_self
  · rintro later other ⟨⟩ ⟨⟩
  · rintro later other ⟨⟩ ⟨⟩

theorem clean_staged (staged : item.androidStaged = true) : state.clean .upload item =
    (some ⟨item.id, .deleting item⟩, { state with deletions := item.cleanup ++ state.deletions }) := by
  unfold clean
  rw [staged]
  rfl

theorem clean_plain (plain : item.androidStaged = false) :
    state.clean .upload item = state.finish ⟨item.id, .deleting item⟩ := by
  unfold clean
  rw [plain]
  rfl

theorem plain_moves {change : QueueItem -> QueueItem} (copies : state.Copies)
    (origin : From state.added item) (named : item.id = start.id) (plain : item.androidStaged = false)
    (store : next.store = state.store) (saves : next.saves = state.saves) (added : next.added = state.added)
    (starting : next.starting = state.starting) (cancelled : next.cancelled = state.cancelled)
    (deletions : next.deletions = state.deletions) (queue : next.queue = state.queue.map change)
    (same : forall item : QueueItem, item.Same (change item))
    (others : forall item, item.id ≠ start.id -> change item = item) :
    state.CopyMoves start (some ⟨item.id, .closing⟩, next) := by
  refine end_moves copies ?_ store saves added (Or.inl starting) ?_ deletions queue same others ?_
  · rintro later ⟨⟩
    rw [named]
  · intro id _ member
    rw [cancelled]
    exact member
  · intro other member its
    right
    have twin := copies.twin origin member (its.trans named.symm)
    have without : other.androidStaged = false := twin.androidStaged.symm.trans plain
    refine ⟨?_, Or.inr without⟩
    unfold lacks
    rw [without]
    rfl

theorem succeed_copies (copies : state.Copies) (inside : start ∈ state.starts)
    (invoking : start.point = .invoking item) (legal : item.androidStaged = false ∨ item.id ∉ state.cancelled) :
    state.CopyMoves start (state.succeed .upload item) := by
  rcases copies.taken start item inside (by rw [invoking]; rfl) with ⟨named, origin⟩
  unfold succeed
  dsimp only
  split
  next cancelled =>
    rw [clean_plain (legal.resolve_right fun spared => spared cancelled)]
    refine leave_moves copies named rfl rfl rfl rfl ?_ rfl rfl
    intro id apart member
    exact mem_withoutId.mpr ⟨member, fun is => apart (is.trans named)⟩
  · cases staged : item.androidStaged with
    | true =>
      rw [clean_staged staged]
      exact delete_moves copies inside invoking staged
    | false =>
      rw [clean_plain staged]
      refine plain_moves copies origin named staged rfl rfl rfl rfl rfl rfl rfl (Queue.relabel_same _ .success) ?_
      exact fun other apart => relabel_elsewhere fun its => apart (its.trans named)

theorem fail_copies {error : String} (copies : state.Copies) (inside : start ∈ state.starts)
    (invoking : start.point = .invoking item)
    (legal : item.androidStaged = false ∨ item.id ∈ state.networkPaused ∨ item.id ∈ state.paused ∨
      item.id ∉ state.cancelled ∧ (failure .upload error).keeps = true) :
    state.CopyMoves start (state.fail .upload item error) := by
  rcases copies.taken start item inside (by rw [invoking]; rfl) with ⟨named, origin⟩
  unfold fail
  split
  · exact leave_moves copies named rfl rfl rfl rfl (fun _ _ member => member) rfl rfl
  next connected =>
    split
    · exact leave_moves copies named rfl rfl rfl rfl (fun _ _ member => member) rfl rfl
    next unpaused =>
      have rest := legal.imp (fun plain => plain) fun noted =>
        (noted.resolve_left connected).resolve_left unpaused
      split
      next cancelled =>
        rw [clean_plain (rest.resolve_right fun both => both.1 cancelled)]
        refine leave_moves copies named rfl rfl rfl rfl ?_ rfl rfl
        intro id apart member
        exact mem_withoutId.mpr ⟨member, fun is => apart (is.trans named)⟩
      · have same : forall other : QueueItem, other.Same (if other.id = item.id then
            { other with
              status := (failure .upload error).status
              promptToken := if failure .upload error = .locked then none else other.promptToken }
            else other) := by
          intro other
          split
          · exact ⟨rfl, rfl, rfl, rfl⟩
          · exact .refl other
        dsimp only
        split
        next keeps =>
          refine end_moves copies ?_ rfl rfl rfl (Or.inl rfl) (fun _ _ member => member) rfl rfl same ?_ ?_
          · rintro later ⟨⟩
            rw [named]
          · exact fun other apart => if_neg fun its => apart (its.trans named)
          · intro other member its
            right
            rw [if_pos (its.trans named.symm)]
            have twin := copies.twin origin member (its.trans named.symm)
            refine ⟨(lacks_congr twin rfl).trans (copies.invoked start item inside invoking), Or.inl ?_⟩
            cases failure .upload error <;> exact fun is => by cases is
        next drops =>
          have plain := rest.resolve_right fun both => drops both.2
          rw [clean_plain plain]
          refine plain_moves copies origin named plain rfl rfl rfl rfl rfl rfl rfl same ?_
          exact fun other apart => if_neg fun its => apart (its.trans named)

theorem startStep_copies {index : Nat} {reply : StartReply} {outcome : Option Start × HookState} (copies : state.Copies)
    (found : state.starts[index]? = some start) (legal : state.protective (.advance index reply) = true)
    (moved : state.startStep .upload settings start reply = some outcome) : state.CopyMoves start outcome := by
  have inside : start ∈ state.starts := List.mem_of_getElem? found
  have direct := copies.direct start inside
  change ((state.starts[index]?).all _) = true at legal
  rw [found, Option.all_some] at legal
  rcases start with ⟨id, point⟩
  cases point with
  | persisting ticket =>
    cases reply <;> try cases moved
    change (if state.written < ticket then none else some (state.recheck .upload settings _)) = _ at moved
    split at moved
    · cases moved
    · cases moved
      exact recheck_copies copies
  | invoking item =>
    cases reply <;> cases moved
    · refine succeed_copies copies inside rfl ?_
      change (!item.androidStaged || decide (item.id ∉ state.cancelled)) = true at legal
      rw [Bool.or_eq_true, Bool.not_eq_true', decide_eq_true_eq] at legal
      exact legal
    next error =>
      refine fail_copies copies inside rfl ?_
      change (!item.androidStaged || decide (item.id ∈ state.networkPaused) || decide (item.id ∈ state.paused) ||
        decide (item.id ∉ state.cancelled) && (failure .upload error).keeps) = true at legal
      rw [Bool.or_eq_true, Bool.or_eq_true, Bool.or_eq_true, Bool.and_eq_true, Bool.not_eq_true', decide_eq_true_eq,
        decide_eq_true_eq, decide_eq_true_eq, or_assoc, or_assoc] at legal
      exact legal
  | deleting item =>
    cases reply <;> cases moved
    exact leave_moves copies rfl rfl rfl rfl rfl (fun _ _ member => member) rfl rfl
  | closing =>
    cases reply <;> cases moved
    refine end_moves copies (fun later is => by cases is) rfl rfl rfl (Or.inr ⟨rfl, rfl⟩) (fun _ _ member => member) rfl
      (List.map_id' _).symm QueueItem.Same.refl (fun _ _ => rfl) fun _ _ _ => Or.inl rfl
  | _ => cases direct

/-! ## Effects -/

/-- A start begins, which waits for the queue to be saved. -/
theorem begin_copies (copies : state.Copies) : (begin state item).Copies := by
  have separate := begin_separate copies.separate item
  revert separate
  unfold begin
  split
  · exact fun _ => copies
  · intro separate
    constructor
    · exact separate
    · exact copies.apart
    · exact copies.queue
    · exact copies.stored
    · exact copies.saving
    · intro start other member holds
      rcases mem_begun member with before | now
      · exact copies.taken start other before holds
      · rw [now] at holds
        cases holds
    · intro start member
      rcases mem_begun member with before | now
      · exact copies.direct start before
      · rw [now]
        rfl
    · exact copies.ours
    · exact copies.kept
    · intro start other member invoking
      rcases mem_begun member with before | now
      · exact copies.invoked start other before invoking
      · rw [now] at invoking
        cases invoking
    · intro start other member invoking
      rcases mem_begun member with before | now
      · exact copies.unsettled start other before invoking
      · rw [now] at invoking
        cases invoking
    · exact copies.released

theorem begins_copies (items : Queue) (copies : state.Copies) : (items.foldl begin state).Copies := by
  induction items generalizing state with
  | nil => exact copies
  | cons item items ih => exact ih (begin_copies copies)

theorem schedule_copies (copies : state.Copies) : (state.schedule settings).Copies := by
  unfold schedule
  split
  · exact begins_copies _ copies
  · exact copies

theorem Copies.saved (copies : state.Copies) (frame : next.starts = state.starts ∧ next.starting = state.starting)
    (queue : next.queue = state.queue) (added : next.added = state.added) (deletions : next.deletions = state.deletions)
    (cancelled : next.cancelled = state.cancelled) (stored : Descends state.added next.store)
    (saving : forall queue, queue ∈ next.saves -> Descends state.added queue) : next.Copies := by
  have lacks : forall item, next.lacks item = state.lacks item := fun item => lacks_congr (.refl item) deletions
  constructor
  · exact copies.separate.same frame.1 frame.2
  · rw [added]
    exact copies.apart
  · rw [added, queue]
    exact copies.queue
  · rw [added]
    exact stored
  · rw [added]
    exact saving
  · rw [frame.1, added]
    exact copies.taken
  · rw [frame.1]
    exact copies.direct
  · rw [added, deletions]
    exact copies.ours
  · intro item member lost
    rw [queue] at member
    rw [lacks] at lost
    exact copies.kept item member lost
  · intro start item member invoking
    rw [frame.1] at member
    rw [lacks]
    exact copies.invoked start item member invoking
  · intro start item member invoking inside named
    rw [frame.1] at member
    rw [queue] at inside
    unfold Unsettled
    rw [cancelled]
    exact copies.unsettled start item member invoking inside named
  · rw [added, queue, deletions]
    exact copies.released

theorem wrote_copies {saved healthy : Bool} (copies : state.Copies)
    (moved : state.step .upload settings (.wrote saved healthy) = some next) : next.Copies := by
  unfold HookState.step at moved
  dsimp only at moved
  cases waiting : state.saves with
  | nil =>
    rw [waiting] at moved
    cases moved
  | cons snapshot rest =>
    rw [waiting] at moved
    cases moved
    have saving := copies.saving
    rw [waiting] at saving
    refine copies.saved ⟨rfl, rfl⟩ rfl rfl rfl rfl ?_ fun queue member => saving queue (List.mem_cons_of_mem _ member)
    show Descends state.added (if saved then snapshot else state.store)
    split
    · exact saving snapshot List.mem_cons_self
    · exact copies.stored

theorem persist_copies (copies : state.Copies) : (state.persist .upload).Copies := by
  refine copies.saved ⟨rfl, rfl⟩ rfl rfl rfl rfl copies.stored ?_
  intro queue member
  rcases List.mem_append.mp member with before | now
  · exact copies.saving queue before
  · rw [List.mem_singleton.mp now]
    exact copies.queue.serialized .upload

/-- What is enqueued together does not share private copies. -/
theorem Fresh.paths {items : Queue} {one two : QueueItem} (fresh : state.Fresh items) (first : one ∈ items)
    (second : two ∈ items) (stagedOne : one.androidStaged = true) (stagedTwo : two.androidStaged = true)
    (same : one.path = two.path) : one.id = two.id := by
  have pairs := (List.nodup_flatMap.mp fresh.copies).2
  by_contra apart
  have symmetric : Std.Symm (Function.onFun List.Disjoint QueueItem.cleanup) :=
    ⟨fun _ _ disjoint _ inside other => disjoint other inside⟩
  have disjoint := pairs.forall first second fun is => apart (by rw [is])
  have cleanup : forall item : QueueItem, item.androidStaged = true -> item.path ∈ item.cleanup := by
    intro item staged
    unfold QueueItem.cleanup
    rw [if_pos staged]
    exact List.mem_singleton_self item.path
  refine disjoint (cleanup one stagedOne) ?_
  rw [same]
  exact cleanup two stagedTwo

theorem enqueue_apart {items : Queue} (apart : Apart state.added) (fresh : state.Fresh items) :
    Apart (items ++ state.added) where
  names := by
    rw [List.map_append, List.nodup_append]
    refine ⟨fresh.distinct, apart.names, ?_⟩
    intro id now other before same
    rcases List.mem_map.mp now with ⟨item, inside, named⟩
    apply fresh.unknown item inside
    rw [named, same]
    exact before
  paths := by
    intro one two first second stagedOne stagedTwo same
    rcases List.mem_append.mp first with new | old
    · rcases List.mem_append.mp second with newer | older
      · exact fresh.paths new newer stagedOne stagedTwo same
      · exact absurd same.symm (fresh.unshared one new stagedOne two older)
    · rcases List.mem_append.mp second with newer | older
      · exact absurd same (fresh.unshared two newer stagedTwo one old)
      · exact apart.paths one two old older stagedOne stagedTwo same
  url := by
    intro item member staged
    rcases List.mem_append.mp member with new | old
    · exact fresh.local_ item new staged
    · exact apart.url item old staged

theorem enqueue_copies {items : Queue} (copies : state.Copies) (fresh : state.Fresh items) :
    (state.enqueue items).Copies := by
  have there : forall item, item ∈ items -> state.lacks item = false := by
    intro item inside
    rw [Bool.eq_false_iff]
    intro lost
    rw [lacks_iff] at lost
    rcases copies.ours item.path lost.2 with ⟨first, enqueued, -, same⟩
    exact fresh.unshared item inside lost.1 first enqueued same
  have lacks : forall item, (state.enqueue items).lacks item = state.lacks item :=
    fun item => lacks_congr (.refl item) rfl
  constructor
  · exact copies.separate.same rfl rfl
  · exact enqueue_apart copies.apart fresh
  · refine ⟨copies.queue.named.enqueue fresh, ?_⟩
    intro item member
    rcases List.mem_append.mp member with before | now
    · exact (copies.queue.origin item before).more items
    · exact ⟨item, List.mem_append_left _ now, .refl item⟩
  · exact copies.stored.more items
  · exact fun queue member => (copies.saving queue member).more items
  · intro start item member holds
    rcases copies.taken start item member holds with ⟨named, origin⟩
    exact ⟨named, origin.more items⟩
  · exact copies.direct
  · intro path member
    rcases copies.ours path member with ⟨item, enqueued, facts⟩
    exact ⟨item, List.mem_append_right _ enqueued, facts⟩
  · intro item member lost
    rw [lacks] at lost
    rcases List.mem_append.mp member with before | now
    · exact copies.kept item before lost
    · rw [there item now] at lost
      cases lost
  · exact copies.invoked
  · intro start item member invoking inside named
    rcases List.mem_append.mp inside with before | now
    · exact copies.unsettled start item member invoking before named
    · refine unsettled_of_live ?_
      rw [fresh.pending item now]
      decide
  · intro item member staged
    rcases List.mem_append.mp member with now | before
    · refine Or.inr ⟨item, List.mem_append_right _ now, rfl, fun success => ?_⟩
      rw [fresh.pending item now] at success
      cases success
    · refine (copies.released item before staged).imp (fun gone => gone) ?_
      rintro ⟨other, inside, facts⟩
      exact ⟨other, List.mem_append_left _ inside, facts⟩

theorem restored_status (item : QueueItem) : (item.restored .upload).status ≠ .success := by
  show (if item.status ∈ [ItemStatus.paused, .waitingForNetwork, .error] then item.status
    else if item.mode.any ProtectionMode.asks then .waitingForUnlock else .pending) ≠ _
  split
  next waiting =>
    intro success
    rw [success] at waiting
    exact absurd waiting (by decide)
  · split
    · exact fun is => by cases is
    · exact fun is => by cases is

theorem restart_copies (copies : state.Copies) (legal : state.protective .restart = true) :
    (state.restart .upload).Copies := by
  change (((state.store.restore .upload).all fun item => !state.lacks item) && state.added.all fun item =>
    !item.androidStaged || state.lacks item ||
      (state.store.restore .upload).any fun other => other.id == item.id) = true at legal
  rw [Bool.and_eq_true, List.all_eq_true, List.all_eq_true] at legal
  rcases legal with ⟨there, complete⟩
  constructor
  · exact ⟨List.nodup_nil, fun _ member => by cases member⟩
  · exact copies.apart
  · exact copies.stored.restored .upload
  · exact copies.stored
  · exact fun _ member => by cases member
  · exact fun _ _ member => by cases member
  · exact fun _ member => by cases member
  · exact copies.ours
  · intro item member lost
    have holds := there item member
    rw [Bool.not_eq_true'] at holds
    have same : (state.restart .upload).lacks item = state.lacks item := lacks_congr (.refl item) rfl
    rw [same, holds] at lost
    cases lost
  · exact fun _ _ member => by cases member
  · exact fun _ _ member => by cases member
  · intro item member staged
    have known := complete item member
    rw [staged, Bool.not_true, Bool.false_or, Bool.or_eq_true, lacks_iff, List.any_eq_true] at known
    refine known.imp And.right ?_
    rintro ⟨other, inside, named⟩
    refine ⟨other, inside, beq_iff_eq.mp named, ?_⟩
    rcases List.mem_map.mp inside with ⟨before, -, is⟩
    rw [← is]
    exact restored_status before

/-! ## Steps and runs -/

theorem step_copies {event : HookEvent} (copies : state.Copies) (legal : state.protective event = true)
    (moved : state.step .upload settings event = some next) : next.Copies := by
  cases event with
  | enqueue items =>
    change (if state.fresh items then some (state.enqueue items) else none) = _ at moved
    split at moved
    next fresh =>
      cases moved
      exact enqueue_copies copies (fresh_of items fresh)
    · cases moved
  | schedule =>
    cases moved
    exact schedule_copies copies
  | persist =>
    cases moved
    exact persist_copies copies
  | wrote saved healthy => exact wrote_copies copies moved
  | network available =>
    cases moved
    exact copies.unchanged ⟨rfl, rfl, rfl, rfl, rfl, rfl⟩ rfl rfl rfl
  | followNetwork =>
    cases moved
    exact followNetwork_copies copies
  | pauseAll =>
    cases moved
    exact pauseAll_copies copies
  | resumeAll =>
    cases moved
    exact resumeAll_copies copies
  | cancelAll | cancelItem id =>
    cases moved
    exact cancel_copies copies legal
  | clearFinished =>
    cases moved
    exact clearFinished_copies copies
  | pauseItem id =>
    cases moved
    exact pauseItem_copies copies id
  | resumeItem id =>
    cases moved
    exact resumeItem_copies copies id
  | retryItem id =>
    cases moved
    exact retryItem_copies copies id
  | answerRetry index token =>
    change (state.retries[index]?).map _ = _ at moved
    rcases Option.map_eq_some_iff.mp moved with ⟨retry, found, answered⟩
    cases answered
    exact answerRetry_copies copies found legal
  | endCooldown id =>
    change (if id ∈ state.timers then some (state.endCooldown id) else none) = _ at moved
    split at moved
    · cases moved
      exact endCooldown_copies copies id
    · cases moved
  | remoteProgress id phase =>
    change (if state.mayReport .upload id phase then some (state.remoteProgress id phase) else none) = _ at moved
    split at moved
    next reports =>
      cases moved
      exact remoteProgress_copies copies reports
    · cases moved
  | advance index reply =>
    change (state.starts[index]?).bind _ = _ at moved
    rcases Option.bind_eq_some_iff.mp moved with ⟨start, found, moved⟩
    rcases Option.map_eq_some_iff.mp moved with ⟨⟨target, after⟩, stepped, same⟩
    have moves := startStep_copies copies found legal stepped
    rw [← same]
    exact copies.advance (turn_of found rfl moves.named) moves
  | restart =>
    cases moved
    exact restart_copies copies legal

theorem newQueue_copies : newQueue.Copies where
  separate := ⟨List.nodup_nil, fun _ member => by cases member⟩
  apart := ⟨List.nodup_nil, (fun _ _ member => by cases member), fun _ member => by cases member⟩
  queue := ⟨⟨List.nodup_nil, (fun _ member => by cases member)⟩, fun _ member => by cases member⟩
  stored := ⟨⟨List.nodup_nil, (fun _ member => by cases member)⟩, fun _ member => by cases member⟩
  saving := fun _ member => by cases member
  taken := fun _ _ member => by cases member
  direct := fun _ member => by cases member
  ours := fun _ member => by cases member
  kept := fun _ member => by cases member
  invoked := fun _ _ member => by cases member
  unsettled := fun _ _ member => by cases member
  released := fun _ member => by cases member

/-- The item may be started again: it waits for something, or `retryItem` accepts it. -/
def mayRunAgain (state : HookState) (item : QueueItem) : Bool :=
  decide (item.status ∈ [ItemStatus.pending, .paused, .waitingForNetwork, .waitingForUnlock, .error]) ||
    item.status == .cancelled && decide (item.id ∉ state.cancelled)

/-- No private copy is lost that is still needed, and none is left behind. -/
structure KeepsCopies (state : HookState) : Prop where
  again : forall item, item ∈ state.queue -> item.androidStaged = true -> state.mayRunAgain item = true ->
    item.path ∉ state.deletions
  reading : forall start item, start ∈ state.starts -> start.point = .invoking item -> item.androidStaged = true ->
    item.path ∉ state.deletions
  released : forall item, item ∈ state.added -> item.androidStaged = true ->
    (forall other, other ∈ state.queue -> other.id = item.id -> other.status = .success) -> item.path ∈ state.deletions

theorem Copies.keeps (copies : state.Copies) : KeepsCopies state where
  again := by
    intro item member staged again gone
    unfold mayRunAgain at again
    rw [copies.kept item member (lacks_iff.mpr ⟨staged, gone⟩)] at again
    cases again
  reading := by
    intro start item member invoking staged gone
    have there := copies.invoked start item member invoking
    rw [lacks_iff.mpr ⟨staged, gone⟩] at there
    cases there
  released := by
    intro item member staged finished
    refine (copies.released item member staged).resolve_right ?_
    rintro ⟨other, inside, named, unfinished⟩
    exact unfinished (finished other inside named)

end HookState

open HookState

/-- In every run whose answers, cancellations, retries and restarts respect the private
copies, a copy is there as long as its item may be started again or is being uploaded, and
its deletion is requested when the upload has succeeded or its item has left the queue. -/
theorem uploads_keep_the_copies_they_need (settings : HookSettings) {state : HookState} {events : List HookEvent}
    (run : (hookMachine .upload settings).Run (fun state event => state.protective event = true) newQueue events state) :
    KeepsCopies state := by
  have copies := run.invariant HookState.Copies (fun _ _ _ legal copies moved => step_copies copies legal moved)
    newQueue_copies
  exact copies.keeps

def stagedItem (id : Nat) (path : String) : QueueItem :=
  { plainItem id with
    path := path
    androidStaged := true }

def singleUploads : HookSettings := ⟨1, .standard⟩

/-- An upload starts, and its transfer command is issued. -/
def startUpload : List HookEvent :=
  [.enqueue [stagedItem 1 "staged/1"]] ++ savedQueue ++ [.schedule, .advance 0 .done]

/-- The upload is paused and resumed, the queue is saved, the process ends, and the upload
succeeds after the restart. -/
def interruptedUpload : List HookEvent :=
  startUpload ++ [.pauseItem 1, .advance 0 (.failed "Transfer cancelled"), .advance 0 .done, .resumeItem 1] ++
    savedQueue ++ [.restart, .schedule, .advance 0 .done, .advance 0 .succeeded]

theorem interrupted_upload_keeps_its_copy : Exists fun state =>
    (hookMachine .upload singleUploads).Run (fun state event => state.protective event = true) newQueue
        interruptedUpload state ∧
      KeepsCopies state ∧ state.issued = [1, 1] ∧ state.deletions = ["staged/1"] := by
  exact (Machine.exists_guarded_run (by decide +kernel)).imp fun state found =>
    ⟨found.1, uploads_keep_the_copies_they_need singleUploads found.1, found.2⟩

/-- The upload is cancelled while it is active, and the command answers. -/
def cancelledUpload : List HookEvent := startUpload ++ [.cancelItem 1, .advance 0 (.failed "Transfer cancelled")]

/-- The upload is paused, and cancelled before the command answers. -/
def removedUpload : List HookEvent := startUpload ++ [.pauseItem 1, .cancelItem 1]

theorem uploads_lose_copies :
    (Exists fun state => (hookMachine .upload singleUploads).Reachable newQueue state ∧ Exists fun item =>
      item ∈ state.queue ∧ item.androidStaged = true ∧ state.mayRunAgain item = true ∧ item.path ∈ state.deletions) ∧
    (Exists fun state => (hookMachine .upload singleUploads).Reachable newQueue state ∧ Exists fun item =>
      ⟨item.id, .invoking item⟩ ∈ state.starts ∧ item.androidStaged = true ∧ item.path ∈ state.deletions) ∧
    ¬forall state, (hookMachine .upload singleUploads).Reachable newQueue state -> KeepsCopies state := by
  have retried : ((hookMachine .upload singleUploads).replay newQueue cancelledUpload).any (fun state => decide (
      Exists fun item => item ∈ state.queue ∧ item.androidStaged = true ∧ state.mayRunAgain item = true ∧
        item.path ∈ state.deletions)) = true := by
    decide +kernel
  have reading : ((hookMachine .upload singleUploads).replay newQueue removedUpload).any (fun state =>
      decide (⟨1, .invoking (stagedItem 1 "staged/1")⟩ ∈ state.starts ∧ "staged/1" ∈ state.deletions)) = true := by
    decide +kernel
  rcases Machine.exists_run retried with ⟨state, run, item, member, staged, again, lost⟩
  rcases Machine.exists_run reading with ⟨removed, removes, invoking, gone⟩
  refine ⟨⟨state, ⟨_, run⟩, item, member, staged, again, lost⟩,
    ⟨removed, ⟨_, removes⟩, stagedItem 1 "staged/1", invoking, rfl, gone⟩, fun keeps => ?_⟩
  exact (keeps state ⟨_, run⟩).again item member staged again lost

end Mobile
end TelegramDrive
