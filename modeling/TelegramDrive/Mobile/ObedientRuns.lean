import TelegramDrive.Mobile.Obedience

namespace TelegramDrive
namespace Mobile

/-!
# Runs of the transfer queues

A start changes what belongs to its own item, and leaves the rest alone.  Every function of
a start is described by what it may do, and the functions that call it use no more than
that.
-/

namespace HookState

variable {hook : Hook} {settings : HookSettings} {state middle next : HookState} {start : Start}

/-! ## What a start may do -/

/-- What a start leaves alone: no item appears, disappears or becomes pending, and notes of
other items stay. -/
structure Own (state next : HookState) (id : Nat) : Prop where
  queue : Exists fun change : QueueItem -> QueueItem =>
    next.queue = state.queue.map change ∧ (forall item, (change item).id = item.id) ∧
      forall item, (change item).status = .pending -> item.status = .pending
  paused : forall other, other ≠ id -> other ∈ state.paused -> other ∈ next.paused
  store : next.store = state.store
  saves : next.saves = state.saves
  added : next.added = state.added
  stopped : next.stopped = state.stopped

theorem Own.here (id : Nat) (paused : forall other, other ≠ id -> other ∈ state.paused -> other ∈ next.paused)
    (queue : next.queue = state.queue) (store : next.store = state.store) (saves : next.saves = state.saves)
    (added : next.added = state.added) (stopped : next.stopped = state.stopped) : state.Own next id := by
  refine ⟨⟨fun item => item, ?_, fun _ => rfl, fun _ is => is⟩, paused, store, saves, added, stopped⟩
  rw [queue, List.map_id']

theorem Own.trans {id : Nat} (one : state.Own middle id) (two : middle.Own next id) : state.Own next id := by
  rcases one.queue with ⟨first, firstQueue, firstKeeps, firstPending⟩
  rcases two.queue with ⟨second, secondQueue, secondKeeps, secondPending⟩
  constructor
  · refine ⟨fun item => second (first item), ?_, ?_, ?_⟩
    · rw [secondQueue, firstQueue, List.map_map]
      rfl
    · intro item
      rw [secondKeeps, firstKeeps]
    · exact fun item is => firstPending item (secondPending _ is)
  · exact fun other apart member => two.paused other apart (one.paused other apart member)
  · rw [two.store, one.store]
  · rw [two.saves, one.saves]
  · rw [two.added, one.added]
  · rw [two.stopped, one.stopped]

theorem Own.ids {id : Nat} (own : state.Own next id) : next.queue.map QueueItem.id = state.queue.map QueueItem.id := by
  rcases own.queue with ⟨change, queue, keeps, -⟩
  rw [queue, Queue.ids_map keeps]

theorem Own.wanted {id : Nat} (own : state.Own next id) (other : Nat) : next.Wanted other ↔ state.Wanted other := by
  unfold Wanted
  rw [own.ids, own.stopped]

/-- A start goes on without being counted or issuing a command. -/
structure Quiet (state next : HookState) (id : Nat) : Prop where
  own : state.Own next id
  activeCount : next.activeCount = state.activeCount
  starting : next.starting = state.starting
  issued : next.issued = state.issued

theorem Quiet.trans {id : Nat} (one : state.Quiet middle id) (two : middle.Quiet next id) : state.Quiet next id :=
  ⟨one.own.trans two.own, two.activeCount.trans one.activeCount, two.starting.trans one.starting,
    two.issued.trans one.issued⟩

theorem quiet_mark (state : HookState) (id : Nat) {status : ItemStatus} (shown : status ≠ .pending) :
    state.Quiet { state with queue := state.queue.markId id status } id := by
  refine ⟨⟨⟨_, rfl, Queue.relabel_id _ status, ?_⟩, fun _ _ member => member, rfl, rfl, rfl, rfl⟩, rfl, rfl, rfl⟩
  intro item is
  exact ((Queue.relabel_pending is).resolve_right fun both => shown both.1).1

theorem mem_withoutId {ids : List Nat} {id other : Nat} : other ∈ withoutId ids id ↔ other ∈ ids ∧ other ≠ id := by
  unfold withoutId
  rw [List.mem_filter, bne_iff_ne]

def share (point : StartPoint) : Nat := if point.isCounted then 1 else 0

/-- What one step of a start does to the queue. -/
structure StartMoves (state : HookState) (start : Start) (outcome : Option Start × HookState) : Prop where
  own : state.Own outcome.2 start.id
  named : forall later, outcome.1 = some later -> later.id = start.id
  opens : start.point.isOpen = true ∨ outcome.1 = none
  count : outcome.2.activeCount + share start.point =
    state.activeCount + outcome.1.elim 0 fun later => share later.point
  starting : outcome.2.starting = state.starting ∨
    outcome.1 = none ∧ outcome.2.starting = withoutId state.starting start.id
  taken : forall later item, outcome.1 = some later -> later.point.item = some item -> item.id = start.id
  prepared : forall later, outcome.1 = some later -> later.point.isPreparing = true ->
    start.id ∈ outcome.2.paused ∨ state.Wanted start.id
  issued : outcome.2.issued = state.issued ∨
    outcome.2.issued = start.id :: state.issued ∧ state.Wanted start.id

theorem StartMoves.after {outcome : Option Start × HookState} (quiet : state.Quiet middle start.id)
    (moves : middle.StartMoves start outcome) : state.StartMoves start outcome where
  own := quiet.own.trans moves.own
  named := moves.named
  opens := moves.opens
  count := by
    rw [moves.count, quiet.activeCount]
  starting := by
    rw [← quiet.starting]
    exact moves.starting
  taken := moves.taken
  prepared := fun later is preparing =>
    (moves.prepared later is preparing).imp (fun noted => noted) (quiet.own.wanted start.id).mp
  issued := by
    rw [← quiet.issued]
    exact moves.issued.imp (fun same => same) fun both => ⟨both.1, (quiet.own.wanted start.id).mp both.2⟩

/-! ## The functions of a start -/

theorem isOpen_of_counted {point : StartPoint} (counted : point.isCounted = true) : point.isOpen = true := by
  cases point with
  | closing => cases counted
  | _ => rfl

theorem share_of_counted {point : StartPoint} (counted : point.isCounted = true) : share point = 1 := if_pos counted

theorem share_of_uncounted {point : StartPoint} (uncounted : point.isCounted = false) : share point = 0 :=
  if_neg (by rw [uncounted]; exact Bool.false_ne_true)

theorem close_moves (quiet : state.Quiet next start.id) (opens : start.point.isOpen = true)
    (uncounted : start.point.isCounted = false) : state.StartMoves start (some ⟨start.id, .closing⟩, next) where
  own := quiet.own
  named := by
    rintro later ⟨⟩
    rfl
  opens := Or.inl opens
  count := by
    rw [share_of_uncounted uncounted]
    exact congrArg (· + 0) quiet.activeCount
  starting := Or.inl quiet.starting
  taken := by
    rintro later item ⟨⟩ ⟨⟩
  prepared := by
    rintro later ⟨⟩ ⟨⟩
  issued := Or.inl quiet.issued

variable {item : QueueItem}

theorem wait_moves {point : StartPoint} (quiet : state.Quiet next start.id)
    (counted : start.point.isCounted = true) (goes : point.isCounted = true) (holds : point.item = some item)
    (same : item.id = start.id) (ready : start.id ∈ next.paused ∨ state.Wanted start.id) :
    state.StartMoves start (some ⟨start.id, point⟩, next) where
  own := quiet.own
  named := by
    rintro later ⟨⟩
    rfl
  opens := Or.inl (isOpen_of_counted counted)
  count := by
    show next.activeCount + share start.point = state.activeCount + share point
    rw [share_of_counted counted, share_of_counted goes, quiet.activeCount]
  starting := Or.inl quiet.starting
  taken := by
    rintro later other ⟨⟩ held
    rw [holds] at held
    cases held
    exact same
  prepared := by
    rintro later ⟨⟩ _
    exact ready
  issued := Or.inl quiet.issued

theorem finish_moves {other : Start} (quiet : state.Quiet middle start.id) (same : other.id = start.id)
    (counted : start.point.isCounted = true) (positive : 0 < state.activeCount) :
    state.StartMoves start (middle.finish other) where
  own := quiet.own.trans (Own.here start.id (fun _ _ member => member) rfl rfl rfl rfl rfl)
  named := by
    rintro later ⟨⟩
    exact same
  opens := Or.inl (isOpen_of_counted counted)
  count := by
    rw [share_of_counted counted]
    show middle.activeCount - 1 + 1 = state.activeCount
    rw [quiet.activeCount]
    exact Nat.sub_add_cancel positive
  starting := Or.inl quiet.starting
  taken := by
    rintro later item ⟨⟩ ⟨⟩
  prepared := by
    rintro later ⟨⟩ ⟨⟩
  issued := Or.inl quiet.issued

theorem still (state : HookState) (id : Nat) : state.Quiet state id :=
  ⟨Own.here id (fun _ _ member => member) rfl rfl rfl rfl rfl, rfl, rfl, rfl⟩

theorem quiet_forget {id : Nat} (same : id = start.id) (state : HookState) (cancelled networkPaused : List Nat) :
    state.Quiet
      { state with
        cancelled := cancelled
        paused := withoutId state.paused id
        networkPaused := networkPaused } start.id :=
  ⟨Own.here start.id (fun _ apart member => mem_withoutId.mpr ⟨member, fun is => apart (is.trans same)⟩) rfl rfl rfl rfl
    rfl, rfl, rfl, rfl⟩

theorem issue_moves (same : item.id = start.id) (counted : start.point.isCounted = true)
    (positive : 0 < state.activeCount) (ready : start.id ∈ state.paused ∨ state.Wanted start.id) :
    state.StartMoves start (state.issue item) := by
  unfold issue
  split
  · exact finish_moves (quiet_forget same state state.cancelled state.networkPaused) same counted positive
  next unnoted =>
    rw [same] at unnoted
    constructor
    · exact Own.here start.id (fun _ _ member => member) rfl rfl rfl rfl rfl
    · rintro later ⟨⟩
      exact same
    · exact Or.inl (isOpen_of_counted counted)
    · show state.activeCount + share start.point = state.activeCount + share (.invoking item)
      rw [share_of_counted counted]
      rfl
    · exact Or.inl rfl
    · rintro later other ⟨⟩ ⟨⟩
      exact same
    · rintro later ⟨⟩ ⟨⟩
    · refine Or.inr ⟨?_, ready.resolve_left unnoted⟩
      rw [← same]
      rfl

theorem askOrIssue_moves {needsPassphrase : Bool} (same : item.id = start.id)
    (counted : start.point.isCounted = true) (positive : 0 < state.activeCount)
    (ready : start.id ∈ state.paused ∨ state.Wanted start.id) :
    state.StartMoves start (state.askOrIssue item needsPassphrase) := by
  unfold askOrIssue
  split
  · rw [same]
    exact wait_moves (still state start.id) counted rfl rfl same ready
  · exact issue_moves same counted positive ready

theorem clean_moves (quiet : state.Quiet middle start.id) (same : item.id = start.id)
    (counted : start.point.isCounted = true) (positive : 0 < state.activeCount) :
    state.StartMoves start (middle.clean hook item) := by
  unfold clean
  split
  · rw [same]
    constructor
    · exact quiet.own.trans (Own.here start.id (fun _ _ member => member) rfl rfl rfl rfl rfl)
    · rintro later ⟨⟩
      rfl
    · exact Or.inl (isOpen_of_counted counted)
    · show middle.activeCount + share start.point = state.activeCount + share (.deleting item)
      rw [share_of_counted counted, quiet.activeCount]
      rfl
    · exact Or.inl quiet.starting
    · rintro later other ⟨⟩ ⟨⟩
      exact same
    · rintro later ⟨⟩ ⟨⟩
    · exact Or.inl quiet.issued
  · exact finish_moves quiet same counted positive

theorem succeed_moves (same : item.id = start.id) (counted : start.point.isCounted = true)
    (positive : 0 < state.activeCount) : state.StartMoves start (state.succeed hook item) := by
  unfold succeed
  dsimp only
  split
  · exact clean_moves (quiet_forget same state _ _) same counted positive
  · have forgets := quiet_forget same state state.cancelled (withoutId state.networkPaused item.id)
    refine clean_moves (forgets.trans ?_) same counted positive
    refine ⟨⟨⟨_, rfl, Queue.relabel_id _ .success, fun other is => ?_⟩, fun _ _ member => member, rfl, rfl, rfl, rfl⟩, rfl,
      rfl, rfl⟩
    exact ((Queue.relabel_pending is).resolve_right fun both => by cases both.1).1

/-- An unexplained error is shown, and makes nothing pending. -/
theorem showFailure_quiet (item : QueueItem) (state : HookState) (failed : TransferFailure) :
    state.Quiet (state.showFailure item failed) start.id := by
  refine ⟨⟨⟨_, rfl, ?_, ?_⟩, fun _ _ member => member, rfl, rfl, rfl, rfl⟩, rfl, rfl, rfl⟩
  · intro other
    split <;> rfl
  · intro other is
    split at is
    · cases failed <;> cases is
    · exact is

theorem fail_moves {error : String} (same : item.id = start.id)
    (counted : start.point.isCounted = true) (positive : 0 < state.activeCount) :
    state.StartMoves start (state.fail hook item error) := by
  have noted : forall cancelled networkPaused, state.Quiet
      { state with
        cancelled := cancelled
        networkPaused := networkPaused } start.id := fun _ _ =>
    ⟨Own.here start.id (fun _ _ member => member) rfl rfl rfl rfl rfl, rfl, rfl, rfl⟩
  unfold fail
  split
  · exact finish_moves (noted state.cancelled _) same counted positive
  · split
    · exact finish_moves (quiet_forget same state state.cancelled state.networkPaused) same counted positive
    · split
      · exact clean_moves (noted _ state.networkPaused) same counted positive
      · dsimp only
        split
        · exact finish_moves (showFailure_quiet item state _) same counted positive
        · exact clean_moves (showFailure_quiet item state _) same counted positive

theorem processItem_moves {ticket : Nat} (same : item.id = start.id)
    (waiting : start.point = .persisting ticket) (wanted : state.Wanted start.id) :
    state.StartMoves start (state.processItem hook settings item) := by
  have opens : start.point.isOpen = true := by
    rw [waiting]
    rfl
  have uncounted : start.point.isCounted = false := by
    rw [waiting]
    rfl
  cases hook with
  | download =>
    constructor
    · exact Own.here start.id (fun _ _ member => member) rfl rfl rfl rfl rfl
    · rintro later ⟨⟩
      exact same
    · exact Or.inl opens
    · rw [share_of_uncounted uncounted]
      rfl
    · exact Or.inl rfl
    · rintro later other ⟨⟩ ⟨⟩
      exact same
    · rintro later ⟨⟩ _
      exact Or.inr wanted
    · exact Or.inl rfl
  | upload =>
    unfold processItem
    dsimp only
    split
    · rw [same]
      refine close_moves ⟨⟨⟨_, rfl, ?_, ?_⟩, fun _ _ member => member, rfl, rfl, rfl, rfl⟩, rfl, rfl, rfl⟩ opens uncounted
      · intro other
        split <;> rfl
      · intro other is
        split at is
        · cases is
        · exact is
    · constructor
      · refine ⟨⟨_, rfl, Queue.relabel_id _ _, ?_⟩, fun _ _ member => member, rfl, rfl, rfl, rfl⟩
        intro other is
        refine ((Queue.relabel_pending is).resolve_right fun both => ?_).1
        have shown := both.1
        split at shown <;> cases shown
      · rintro later ⟨⟩
        exact same
      · exact Or.inl opens
      · rw [share_of_uncounted uncounted]
        rfl
      · exact Or.inl rfl
      · rintro later other ⟨⟩ ⟨⟩
        exact same
      · rintro later ⟨⟩ ⟨⟩
      · refine Or.inr ⟨?_, wanted⟩
        rw [← same]
        rfl

theorem recheck_moves {ticket : Nat} (obedient : state.Obedient settings) (waiting : start.point = .persisting ticket) :
    state.StartMoves start (state.recheck hook settings start) := by
  have opens : start.point.isOpen = true := by
    rw [waiting]
    rfl
  have uncounted : start.point.isCounted = false := by
    rw [waiting]
    rfl
  unfold recheck
  split
  · exact close_moves (still state start.id) opens uncounted
  next current found =>
    have inside := Queue.find_some found
    split
    · exact close_moves (still state start.id) opens uncounted
    next ready =>
      split
      · exact close_moves (quiet_mark state start.id fun is => by cases is) opens uncounted
      · refine processItem_moves inside.2 waiting ⟨List.mem_map.mpr ⟨current, inside⟩, ?_⟩
        rw [Bool.or_eq_true, decide_eq_true_eq, not_or, not_not] at ready
        rw [← inside.2]
        exact obedient.pending current inside.1 ready.1

/-! ## One step of a start -/

theorem Obedient.positive (obedient : state.Obedient settings) (member : start ∈ state.starts)
    (counted : start.point.isCounted = true) : 0 < state.activeCount := by
  rw [obedient.counted, List.countP_pos_iff]
  exact ⟨start, member, counted⟩

theorem startStep_moves {reply : StartReply} {outcome : Option Start × HookState} (obedient : state.Obedient settings)
    (member : start ∈ state.starts) (moved : state.startStep hook settings start reply = some outcome) :
    state.StartMoves start outcome := by
  have positive := obedient.positive member
  have ready := obedient.prepared start member
  have taken := obedient.taken start
  rcases start with ⟨id, point⟩
  cases point with
  | persisting ticket =>
    cases reply <;> try cases moved
    change (if state.written < ticket then none else some (state.recheck hook settings _)) = _ at moved
    split at moved
    · cases moved
    · cases moved
      exact recheck_moves obedient rfl
  | environment item =>
    cases reply <;> cases moved
    · exact close_moves (still state id) rfl rfl
    · exact close_moves (quiet_mark state id fun is => by cases is) rfl rfl
    · constructor
      · refine ⟨⟨_, rfl, Queue.relabel_id _ .downloading, fun other is => ?_⟩, fun _ _ member => member, rfl, rfl, rfl, rfl⟩
        exact ((Queue.relabel_pending is).resolve_right fun both => by cases both.1).1
      · rintro later ⟨⟩
        rfl
      · exact Or.inl rfl
      · rfl
      · exact Or.inl rfl
      · rintro later other ⟨⟩ ⟨⟩
        exact taken item member rfl
      · exact fun _ _ _ => ready rfl
      · exact Or.inl rfl
  | inquiring item =>
    have same := taken item member rfl
    cases reply <;> try cases moved
    case encryption plain mode =>
      have shown : state.Quiet
          (if plain then state else { state with queue := state.queue.markId id .decrypting }) id := by
        split
        · exact still state id
        · exact quiet_mark state id fun is => by cases is
      change (if mode = some .vaultAndPassphrase then some ((some ⟨id, .unlocking item⟩ : Option Start), _)
        else some _) = some outcome at moved
      split at moved
      · cases moved
        refine wait_moves shown rfl rfl rfl same ?_
        split
        · exact ready rfl
        · exact ready rfl
      · cases moved
        refine (askOrIssue_moves same rfl ?_ ?_).after shown
        · rw [shown.activeCount]
          exact positive rfl
        · refine (ready rfl).imp (fun noted => ?_) (shown.own.wanted id).mpr
          split
          · exact noted
          · exact noted
    case failed.refl error => exact fail_moves same rfl (positive rfl)
  | unlocking item =>
    cases reply <;> cases moved
    exact askOrIssue_moves (taken item member rfl) rfl (positive rfl) (ready rfl)
  | prompting item =>
    cases reply <;> cases moved
    · exact finish_moves (quiet_mark state id fun is => by cases is) rfl rfl (positive rfl)
    · exact wait_moves (still state id) rfl rfl rfl (taken item member rfl) (ready rfl)
  | staging item =>
    cases reply <;> cases moved
    · exact issue_moves (taken item member rfl) rfl (positive rfl) (ready rfl)
    · exact fail_moves (taken item member rfl) rfl (positive rfl)
  | invoking item =>
    cases reply <;> cases moved
    · exact succeed_moves (taken item member rfl) rfl (positive rfl)
    · exact fail_moves (taken item member rfl) rfl (positive rfl)
  | deleting item =>
    cases reply <;> cases moved
    exact finish_moves (still state id) rfl rfl (positive rfl)
  | closing =>
    cases reply <;> cases moved
    constructor
    · exact Own.here id (fun _ _ member => member) rfl rfl rfl rfl rfl
    · rintro later ⟨⟩
    · exact Or.inr rfl
    · rfl
    · exact Or.inr ⟨rfl, rfl⟩
    · rintro later other ⟨⟩
    · rintro later ⟨⟩
    · exact Or.inl rfl

/-- The starts after one of them went on, or ended. -/
structure Turn (state : HookState) (start : Start) (target : Option Start) (starts : List Start) : Prop where
  around : Exists fun before => Exists fun rest =>
    state.starts = before ++ start :: rest ∧ starts = before ++ (target.toList ++ rest)
  named : forall later, target = some later -> later.id = start.id

variable {target : Option Start} {starts : List Start}

theorem Turn.mem (turn : state.Turn start target starts) :
    start ∈ state.starts := by
  rcases turn.around with ⟨before, rest, split, -⟩
  rw [split]
  exact List.mem_append_right _ List.mem_cons_self

theorem Turn.cases {other : Start} (turn : state.Turn start target starts)
    (separate : state.Separate) (member : other ∈ starts) :
    other ∈ state.starts ∧ other.id ≠ start.id ∨ target = some other := by
  rcases turn.around with ⟨before, rest, split, startsEq⟩
  have apart : other ∈ before ++ rest -> other ∈ state.starts ∧ other.id ≠ start.id := by
    intro member
    have distinct := separate.distinct
    rw [split, List.map_append, List.map_cons, List.nodup_middle, ← List.map_append] at distinct
    refine ⟨?_, fun same => ?_⟩
    · rw [split, List.mem_append, List.mem_cons]
      exact (List.mem_append.mp member).imp (fun inside => inside) Or.inr
    · refine (List.nodup_cons.mp distinct).1 ?_
      rw [← same]
      exact List.mem_map_of_mem member
  rw [startsEq, List.mem_append, List.mem_append, Option.mem_toList] at member
  rcases member with member | member | member
  · exact Or.inl (apart (List.mem_append_left _ member))
  · exact Or.inr member
  · exact Or.inl (apart (List.mem_append_right _ member))

theorem Turn.separate (turn : state.Turn start target starts)
    (separate : state.Separate) (starting : next.starting = state.starting ∨
      target = none ∧ next.starting = withoutId state.starting start.id) :
    ({ next with starts := starts } : HookState).Separate := by
  constructor
  · have distinct := separate.distinct
    rcases turn.around with ⟨before, rest, split, startsEq⟩
    rw [split, List.map_append, List.map_cons] at distinct
    show (starts.map Start.id).Nodup
    rw [startsEq, List.map_append, List.map_append]
    cases ending : target with
    | none => exact distinct.sublist (List.Sublist.append_left (List.sublist_cons_self _ _) _)
    | some later =>
      have same := turn.named later ending
      rw [← same] at distinct
      exact distinct
  · intro other member
    show other.id ∈ next.starting
    rcases turn.cases separate member with ⟨still, apart⟩ | now
    · have held := separate.starting other still
      rcases starting with same | ⟨-, erased⟩
      · rw [same]
        exact held
      · rw [erased]
        exact mem_withoutId.mpr ⟨held, apart⟩
    · rcases starting with same | ⟨ended, -⟩
      · rw [same, turn.named other now]
        exact separate.starting start turn.mem
      · rw [ended] at now
        cases now

theorem turn_of {index : Nat} (found : state.starts[index]? = some start)
    (startsEq : starts = match target with
      | none => state.starts.eraseIdx index
      | some later => state.starts.set index later)
    (named : forall later, target = some later -> later.id = start.id) : state.Turn start target starts := by
  rcases Machine.threads_around found with ⟨before, rest, split, erased, replaced⟩
  refine ⟨⟨before, rest, split, ?_⟩, named⟩
  rw [startsEq]
  cases target with
  | none => exact erased
  | some later => exact replaced later

theorem advance_obedient (obedient : state.Obedient settings)
    (turn : state.Turn start target starts) (moves : state.StartMoves start (target, next)) :
    ({ next with starts := starts } : HookState).Obedient settings := by
  rcases turn.around with ⟨before, rest, split, startsEq⟩
  have cases_ : forall other, other ∈ starts -> other ∈ state.starts ∧ other.id ≠ start.id ∨ target = some other :=
    fun _ => turn.cases obedient.separate
  rcases moves.own.queue with ⟨change, queue, keeps, pending⟩
  constructor
  · exact turn.separate obedient.separate moves.starting
  · have count := moves.count
    have counted := obedient.counted
    show next.activeCount = starts.countP _
    rw [split, List.countP_append, List.countP_cons] at counted
    rw [startsEq, List.countP_append, List.countP_append]
    unfold share at count
    cases ending : target with
    | none =>
      rw [ending] at count
      simp only [Option.elim_none, Option.toList_none, List.countP_nil] at count ⊢
      omega
    | some later =>
      rw [ending] at count
      simp only [Option.elim_some, Option.toList_some, List.countP_singleton] at count ⊢
      omega
  · have limited := obedient.limited
    show starts.countP _ ≤ _
    rw [split, List.countP_append, List.countP_cons] at limited
    rw [startsEq, List.countP_append, List.countP_append]
    cases ending : target with
    | none =>
      simp only [Option.toList_none, List.countP_nil]
      omega
    | some later =>
      rw [if_pos (moves.opens.resolve_right fun ended => by rw [show target = none from ended] at ending; cases ending)]
        at limited
      have one : List.countP (fun start : Start => start.point.isOpen) [later] ≤ 1 := List.countP_le_length
      rw [Option.toList_some]
      omega
  · show Named next.added next.queue
    rw [moves.own.added, queue]
    exact obedient.named.map keeps
  · show Named next.added next.store
    rw [moves.own.added, moves.own.store]
    exact obedient.stored
  · show forall queue, queue ∈ next.saves -> Named next.added queue
    rw [moves.own.added, moves.own.saves]
    exact obedient.saving
  · show forall id, id ∈ next.stopped -> id ∈ next.added.map QueueItem.id
    rw [moves.own.added, moves.own.stopped]
    exact obedient.stopped
  · show forall item, item ∈ next.queue -> item.status = .pending -> item.id ∉ next.stopped
    intro item member is
    rw [queue] at member
    rcases List.mem_map.mp member with ⟨old, member, same⟩
    rw [moves.own.stopped, ← same, keeps]
    rw [← same] at is
    exact obedient.pending old member (pending old is)
  · intro other item member taken
    rcases cases_ other member with still | now
    · exact obedient.taken other item still.1 taken
    · rw [moves.named other now]
      exact moves.taken other item now taken
  · intro other member preparing
    rcases cases_ other member with still | now
    · rcases obedient.prepared other still.1 preparing with noted | wanted
      · exact Or.inl (moves.own.paused other.id still.2 noted)
      · exact Or.inr ((moves.own.wanted other.id).mpr wanted)
    · rw [moves.named other now]
      exact (moves.prepared other now preparing).imp (fun noted => noted) (moves.own.wanted start.id).mpr

/-! ## Steps -/

theorem begin_issued (state : HookState) (item : QueueItem) : (begin state item).issued = state.issued := by
  unfold begin
  split <;> rfl

theorem begins_issued (items : Queue) (state : HookState) : (items.foldl begin state).issued = state.issued := by
  induction items generalizing state with
  | nil => rfl
  | cons item items ih => exact (ih (begin state item)).trans (begin_issued state item)

theorem schedule_issued (state : HookState) : (state.schedule settings).issued = state.issued := by
  unfold schedule
  split
  · exact begins_issued _ state
  · rfl

theorem retryItem_issued (state : HookState) (id : Nat) : (state.retryItem hook id).issued = state.issued := by
  unfold retryItem
  split
  · rfl
  · cases hook with
    | download => rfl
    | upload =>
      dsimp only
      split
      · rfl
      · split
        · rfl
        · split <;> rfl

theorem pauseItem_issued (state : HookState) (id : Nat) : (state.pauseItem hook id).issued = state.issued := by
  unfold pauseItem
  split
  · rfl
  · split
    · rfl
    · split <;> rfl

/-- Every step that is permitted obeys, and the command it may issue is wanted. -/
theorem step_obedient {event : HookEvent} (obedient : state.Obedient settings)
    (legal : state.mindful hook settings event = true) (moved : state.step hook settings event = some next) :
    next.Obedient settings ∧ (next.issued = state.issued ∨
      Exists fun id => next.issued = id :: state.issued ∧ state.Wanted id) := by
  cases event with
  | enqueue items =>
    change (if state.fresh items then some (state.enqueue items) else none) = _ at moved
    split at moved
    next fresh =>
      cases moved
      exact ⟨enqueue_obedient obedient (fresh_of items fresh), Or.inl rfl⟩
    · cases moved
  | schedule =>
    cases moved
    exact ⟨schedule_obedient obedient legal, Or.inl (schedule_issued state)⟩
  | persist =>
    cases moved
    exact ⟨persist_obedient obedient, Or.inl rfl⟩
  | wrote saved healthy =>
    refine ⟨wrote_obedient obedient moved, Or.inl ?_⟩
    unfold HookState.step at moved
    dsimp only at moved
    split at moved
    · cases moved
    · cases moved
      rfl
  | network available =>
    cases moved
    exact ⟨⟨obedient.separate.same rfl rfl, obedient.counted, obedient.limited, obedient.named, obedient.stored,
      obedient.saving, obedient.stopped, obedient.pending, obedient.taken, obedient.prepared⟩, Or.inl rfl⟩
  | followNetwork =>
    cases moved
    refine ⟨followNetwork_obedient obedient, Or.inl ?_⟩
    unfold followNetwork
    split <;> rfl
  | pauseAll =>
    cases moved
    exact ⟨pauseAll_obedient obedient legal, Or.inl rfl⟩
  | resumeAll =>
    cases moved
    exact ⟨obedient.resume (resumeAll_resumes state), Or.inl rfl⟩
  | cancelAll =>
    cases moved
    exact ⟨cancelAll_obedient obedient legal, Or.inl rfl⟩
  | clearFinished =>
    cases moved
    exact ⟨clearFinished_obedient obedient legal, Or.inl rfl⟩
  | pauseItem id =>
    cases moved
    exact ⟨pauseItem_obedient obedient legal, Or.inl (pauseItem_issued state id)⟩
  | resumeItem id =>
    cases moved
    refine ⟨resumeItem_obedient obedient id, Or.inl ?_⟩
    unfold resumeItem
    dsimp only
    split <;> rfl
  | cancelItem id =>
    cases moved
    exact ⟨cancelItem_obedient obedient legal, Or.inl rfl⟩
  | retryItem id =>
    cases moved
    exact ⟨retryItem_obedient obedient id, Or.inl (retryItem_issued state id)⟩
  | answerRetry index token =>
    change (state.retries[index]?).map _ = _ at moved
    rcases Option.map_eq_some_iff.mp moved with ⟨retry, -, answered⟩
    cases answered
    refine ⟨answerRetry_obedient obedient retry token, Or.inl ?_⟩
    cases token <;> rfl
  | endCooldown id =>
    change (if id ∈ state.timers then some (state.endCooldown id) else none) = _ at moved
    split at moved
    · cases moved
      exact ⟨obedient.resume (endCooldown_resumes state id), Or.inl rfl⟩
    · cases moved
  | remoteProgress id phase =>
    change (if state.mayReport hook id phase then some (state.remoteProgress id phase) else none) = _ at moved
    split at moved
    next reports =>
      cases moved
      exact ⟨remoteProgress_obedient obedient reports, Or.inl rfl⟩
    · cases moved
  | advance index reply =>
    change (state.starts[index]?).bind _ = _ at moved
    rcases Option.bind_eq_some_iff.mp moved with ⟨start, found, moved⟩
    rcases Option.map_eq_some_iff.mp moved with ⟨⟨target, after⟩, stepped, same⟩
    have moves := startStep_moves obedient (List.mem_of_getElem? found) stepped
    rw [← same]
    exact ⟨advance_obedient obedient (turn_of found rfl moves.named) moves,
      moves.issued.imp (fun is => is) fun both => ⟨start.id, both⟩⟩
  | restart =>
    cases moved
    exact ⟨restart_obedient obedient, Or.inl rfl⟩

theorem newQueue_obedient (settings : HookSettings) : newQueue.Obedient settings where
  separate := ⟨List.nodup_nil, fun _ member => by cases member⟩
  counted := rfl
  limited := Nat.zero_le _
  named := ⟨List.nodup_nil, fun _ member => by cases member⟩
  stored := ⟨List.nodup_nil, fun _ member => by cases member⟩
  saving := fun _ member => by cases member
  stopped := fun _ member => by cases member
  pending := fun _ member => by cases member
  taken := fun _ _ member => by cases member
  prepared := fun _ member => by cases member

/-! ## Runs -/

/-- Every item is processed once at a time, and no more transfers are counted than the limit
allows. -/
structure Bounded (limit : Nat) (state : HookState) : Prop where
  single : ((state.starts.filter (·.point.isExecuting)).map Start.id).Nodup
  limited : state.starts.countP (·.point.isCounted) ≤ limit

/-- A transfer command that the step issues is issued for an item that is in the queue, and
that was not paused or cancelled since it became pending. -/
def IssuesWanted (state next : HookState) : Prop :=
  forall id, next.issued = id :: state.issued -> state.Wanted id

theorem Obedient.bounded (obedient : state.Obedient settings) : Bounded settings.limit state where
  single := obedient.separate.distinct.sublist (List.filter_sublist.map Start.id)
  limited := (List.countP_mono_left fun _ _ counted => isOpen_of_counted counted).trans obedient.limited

theorem run_obedient {events : List HookEvent}
    (run : (hookMachine hook settings).Run (fun state event => state.mindful hook settings event = true) newQueue events
      state) : state.Obedient settings :=
  run.invariant (fun state => state.Obedient settings)
    (fun _ _ _ legal obedient moved => (step_obedient obedient legal moved).1) (newQueue_obedient settings)

end HookState

open HookState

/-- In every run whose effect passes leave room for the starts under way, and whose commands
leave alone what is between its check and its transfer command, the queue obeys. -/
theorem transfer_queue_obeys_its_commands (hook : Hook) (settings : HookSettings) {state : HookState}
    {events : List HookEvent}
    (run : (hookMachine hook settings).Run (fun state event => state.mindful hook settings event = true) newQueue events
      state) :
    Bounded settings.limit state ∧
      forall event next, state.mindful hook settings event = true ->
        (hookMachine hook settings).step state event = some next -> IssuesWanted state next := by
  have obedient := run_obedient run
  refine ⟨obedient.bounded, ?_⟩
  intro event next legal moved id issues
  rcases (step_obedient obedient legal moved).2 with same | ⟨other, issued, wanted⟩
  · rw [same] at issues
    exact absurd issues.symm (List.cons_ne_self id state.issued)
  · rw [issued, List.cons.injEq] at issues
    rw [← issues.1]
    exact wanted

/-! ## Runs on which the queue disobeys -/

def plainItem (id : Nat) : QueueItem where
  id := id
  path := "photo.jpg"
  url := none
  androidStaged := false
  mode := none
  promptToken := none
  status := .pending

/-- The queue is saved. -/
def savedQueue : List HookEvent := [.persist, .wrote true true]

/-- One download at a time goes through all its waits. -/
def obedientDownload : List HookEvent :=
  [.enqueue [plainItem 1, plainItem 2]] ++ savedQueue ++ [.pauseItem 1, .schedule] ++ savedQueue ++
    [.advance 0 .done, .advance 0 .allowed, .resumeItem 1, .schedule]

theorem paused_download_is_not_issued : Exists fun state =>
    (hookMachine .download ⟨1, .standard⟩).Run
        (fun state event => state.mindful .download ⟨1, .standard⟩ event = true) newQueue obedientDownload state ∧
      Bounded 1 state ∧ state.activeCount = 1 ∧
      Exists fun next => (hookMachine .download ⟨1, .standard⟩).step state (.advance 0 (.encryption true none)) = some next ∧
        next.issued = [2] ∧ state.Wanted 2 := by
  have replayed : (((hookMachine .download ⟨1, .standard⟩).guarded fun state event =>
      state.mindful .download ⟨1, .standard⟩ event).replay newQueue obedientDownload).any (fun state => decide (
        state.activeCount = 1 ∧ state.issued = [] ∧
        state.mindful .download ⟨1, .standard⟩ (.advance 0 (.encryption true none)) = true ∧ Exists fun next =>
          (hookMachine .download ⟨1, .standard⟩).step state (.advance 0 (.encryption true none)) = some next ∧
            next.issued = [2])) = true := by
    decide +kernel
  rcases Machine.exists_guarded_run replayed with ⟨state, run, counted, unissued, legal, next, moved, issued⟩
  have obeys := transfer_queue_obeys_its_commands .download ⟨1, .standard⟩ run
  refine ⟨state, run, obeys.1, counted, next, moved, issued, ?_⟩
  refine obeys.2 _ next legal moved 2 ?_
  rw [issued, unissued]

/-- One upload is allowed at a time.  While the start of the second item waits for the queue
to be saved, the first one is resumed, and an effect pass starts it too. -/
def overfullUploads : List HookEvent :=
  [.enqueue [plainItem 1, plainItem 2]] ++ savedQueue ++ [.pauseItem 1] ++ savedQueue ++ [.schedule, .resumeItem 1] ++
    savedQueue ++ [.schedule, .advance 0 .done, .advance 1 .done]

/-- A download is paused while the environment is probed. -/
def pausedDownload : List HookEvent :=
  [.enqueue [plainItem 1]] ++ savedQueue ++ [.schedule, .advance 0 .done, .pauseItem 1, .advance 0 .allowed]

theorem transfer_queue_disobeys :
    (Exists fun state => (hookMachine .upload ⟨1, .standard⟩).Reachable newQueue state ∧ ¬Bounded 1 state) ∧
      Exists fun state => Exists fun next => (hookMachine .download ⟨1, .standard⟩).Reachable newQueue state ∧
        (hookMachine .download ⟨1, .standard⟩).step state (.advance 0 (.encryption true none)) = some next ∧
        ¬IssuesWanted state next := by
  have overfull : ((hookMachine .upload ⟨1, .standard⟩).replay newQueue overfullUploads).any (fun state =>
      decide (state.starts.countP (·.point.isCounted) = 2)) = true := by
    decide +kernel
  have paused : ((hookMachine .download ⟨1, .standard⟩).replay newQueue pausedDownload).any (fun state => decide (
      state.issued = [] ∧ state.stopped = [1] ∧ Exists fun next =>
        (hookMachine .download ⟨1, .standard⟩).step state (.advance 0 (.encryption true none)) = some next ∧
          next.issued = [1])) = true := by
    decide +kernel
  constructor
  · rcases Machine.exists_run overfull with ⟨state, run, counted⟩
    refine ⟨state, ⟨_, run⟩, fun bounded => ?_⟩
    have limited := bounded.limited
    rw [counted] at limited
    exact absurd limited (by decide)
  · rcases Machine.exists_run paused with ⟨state, run, unissued, stopped, next, moved, issued⟩
    refine ⟨state, next, ⟨_, run⟩, moved, fun wanted => ?_⟩
    refine (wanted 1 ?_).2 ?_
    · rw [issued, unissued]
    · rw [stopped]
      exact List.mem_singleton_self 1

end Mobile
end TelegramDrive
