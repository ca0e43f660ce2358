import TelegramDrive.Workspace.PackRecords

namespace TelegramDrive
namespace Workspace

/-!
# Threads of an offline pack

What a run or a command knows at each of its points, and what each of its steps does to the
record of the pack, to the job that is registered and to what happened.  A run changes the
record only while it is the active one, and makes an item ready only behind the publication
of its file.
-/

/-! ## Threads -/

namespace RunPoint

def chosen : RunPoint -> Option Chosen
  | .gate chosen | .space chosen | .marking chosen | .downloading chosen _ | .cleaning chosen _ | .checking chosen _
  | .dating chosen _ | .rereading chosen _ | .discarding chosen | .storing chosen | .noting chosen _ _ => some chosen
  | _ => none

/-- The run has published the file that it chose. -/
def isPublished : RunPoint -> Bool
  | .downloading _ renamed => renamed
  | .cleaning _ outcome | .checking _ outcome | .dating _ outcome | .rereading _ outcome => outcome == .done
  | .storing _ => true
  | _ => false

end RunPoint

namespace PackThread

/-- The thread owns the job that is registered. -/
def owns : PackThread -> Bool
  | .run _ _ => true
  | .call (.preparing _) | .call .unregistering => true
  | _ => false

/-- The run that the thread makes the active one. -/
def launches : PackThread -> Option Nat
  | .call (.preparing drawn) => some drawn
  | _ => none

end PackThread

/-- What a verification knows of the item that it found. -/
structure Found (log : List PackEntry) (pack : OfflinePack) (item : PackItem) (since : Int) : Prop where
  read : .read pack since ∈ log
  member : item ∈ pack.files
  ready : item.status = .ready
  unexpired : pack.status ≠ .expired
  early : pack.overdue since = false

section Names

variable (sha256 : String -> String)

/-- What a thread knows, given the record and what happened. -/
def PackThread.Holds (record : Option OfflinePack) (log : List PackEntry) : PackThread -> Prop
  | .run drawn point => forall chosen, point.chosen = some chosen ->
      (forall pack, record = some pack -> pack.fileAt chosen.index = some chosen.file ∧
        (pack.activeRun = some drawn -> pack.statusAt chosen.index ≠ some .expired)) ∧
      (point.isPublished = true -> .published drawn (chosen.file.fileName sha256) chosen.file.size ∈ log)
  | .call (.reading _ since) => forall pack, record = some pack -> pack.overdue since = true ->
      forall item, item ∈ pack.files -> item.status = .expired
  | .call (.resolving pack item since) => Found log pack item since
  | _ => True

/-- What may be added to what happened. -/
def PackEntry.Fits (state : PackState) : PackEntry -> Prop
  | .published _ _ _ => True
  | .read pack _ => state.record = some pack
  | .returned pack item since => Found state.log pack item since ∧
      state.files (item.file.fileName sha256) = some item.file.size

/-- An item became ready: the active run has published its file, or a complete copy is there. -/
def Backed (one : OfflinePack) (state : PackState) (index : Nat) : Prop :=
  Exists fun file => one.fileAt index = some file ∧
    (state.files (file.fileName sha256) = some file.size ∨
      Exists fun run => one.activeRun = some run ∧ .published run (file.fileName sha256) file.size ∈ state.log)

/-- What a step of a thread does to the record: nothing, or it removes it, or it changes it. -/
inductive RecordStep (thread : PackThread) (state after : PackState) : Prop
  | same (record : after.record = state.record) (cancelled : after.cancelled = state.cancelled)
  | gone (record : after.record = none) (call : Exists fun point => thread = .call point)
  | changed (one next : OfflinePack) (expires : Prop) (unbars readies : Nat -> Prop) (before : state.record = some one)
      (behind : after.record = some next)
      (changes : OfflinePack.Changes thread.launches expires unbars readies one next)
      (backed : forall index, readies index -> Backed sha256 one after index)
      (settled : one.Settled -> next.Settled)
      (respects : OfflinePack.Respects state.cancelled one -> OfflinePack.Respects after.cancelled next)
      (actor : forall run point, thread = .run run point -> point ≠ .expiring -> one.activeRun = some run)

/-- What a step of a thread does. -/
structure ThreadStep (thread : PackThread) (state : PackState) (next : Option PackThread) (after : PackState) : Prop where
  owners : after.jobs.toList.length + (if thread.owns then 1 else 0) =
    state.jobs.toList.length + (if next.any PackThread.owns then 1 else 0)
  record : RecordStep sha256 thread state after
  log : after.log = state.log ∨ Exists fun entry => after.log = entry :: state.log ∧ entry.Fits sha256 state
  holds : forall thread, next = some thread -> thread.Holds sha256 after.record after.log

/-- A returned item was found by a verification that read the pack before. -/
def Honest (log : List PackEntry) : Prop :=
  forall later pack item since earlier, log = later ++ .returned pack item since :: earlier -> Found earlier pack item since

/-- The invariant. -/
structure PackState.Sound (state : PackState) : Prop where
  owners : state.threads.countP PackThread.owns = state.jobs.toList.length
  holds : forall thread, thread ∈ state.threads -> thread.Holds sha256 state.record state.log
  settled : forall pack, state.record = some pack -> pack.Settled
  respects : forall pack, state.record = some pack -> OfflinePack.Respects state.cancelled pack
  honest : Honest state.log

/-- The step neither marks an item that the user cancelled, nor finds the copy of a ready item
gone while a job is registered for a ready pack. -/
def careful (state : PackState) : PackEvent -> Bool
  | .advance index _ =>
    match state.threads[index]?, state.record with
    | some (.run run (.marking chosen)), some pack =>
      decide (pack.activeRun ≠ some run ∨ chosen.index ∉ state.cancelled)
    | some (.run _ .expiring), some pack | some (.call (.entering _)), some pack =>
      pack.isExpired state.clock || state.jobs.isNone || pack.status != .ready ||
        pack.files.all fun item => isComplete sha256 state.files item.file
    | _, _ => true
  | _ => true

end Names

section Proofs

variable {sha256 : String -> String} {thread other : PackThread} {state after : PackState}

/-! ## Frames -/

variable {pack one : OfflinePack}

theorem Found.mono {log more : List PackEntry} {item : PackItem} {since : Int}
    (found : Found log pack item since) (kept : forall entry, entry ∈ log -> entry ∈ more) :
    Found more pack item since :=
  ⟨kept _ found.read, found.member, found.ready, found.unexpired, found.early⟩

/-- What a thread knows survives the step of another thread, and of the run itself. -/
theorem PackThread.Holds.frame (holds : other.Holds sha256 state.record state.log)
    (record : RecordStep sha256 thread state after) (kept : forall entry, entry ∈ state.log -> entry ∈ after.log)
    (alone : thread.launches = none ∨ other.owns = false) : other.Holds sha256 after.record after.log := by
  cases other with
  | run drawn point =>
    intro chosen picked
    rcases holds chosen picked with ⟨stored, published⟩
    refine ⟨?_, fun done => kept _ (published done)⟩
    intro pack now
    rcases record with ⟨same, -⟩ | ⟨gone, -⟩ | ⟨one, next, expires, unbars, readies, before, behind, changes, -⟩
    · rw [same] at now
      exact stored pack now
    · rw [gone] at now
      cases now
    · rw [behind] at now
      cases now
      rcases stored one before with ⟨file, spared⟩
      refine ⟨changes.fileAt file, ?_⟩
      intro active
      rcases changes.active drawn active with launched | ⟨was, unexpiring⟩
      · rcases alone with none | idle
        · rw [none] at launched
          cases launched
        · cases idle
      · exact changes.unexpired unexpiring (spared was)
  | call point =>
    cases point with
    | reading key since =>
      intro pack now late
      rcases record with ⟨same, -⟩ | ⟨gone, -⟩ | ⟨one, next, expires, unbars, readies, before, behind, changes, -⟩
      · rw [same] at now
        exact holds pack now late
      · rw [gone] at now
        cases now
      · rw [behind] at now
        cases now
        refine changes.allExpired (holds one before ?_)
        unfold OfflinePack.overdue at late ⊢
        rw [← changes.expiresAt]
        exact late
    | resolving pack item since => exact Found.mono holds kept
    | _ => trivial

variable {next : Option PackThread}

theorem ThreadStep.kept (step : ThreadStep sha256 thread state next after)
    (entry : PackEntry) (member : entry ∈ state.log) : entry ∈ after.log := by
  rcases step.log with same | ⟨first, same, -⟩
  · rw [same]
    exact member
  · rw [same]
    exact List.mem_cons_of_mem first member

theorem ThreadStep.move (jobs : after.jobs = state.jobs)
    (record : after.record = state.record) (cancelled : after.cancelled = state.cancelled)
    (log : after.log = state.log) (owns : next.any PackThread.owns = thread.owns)
    (holds : forall thread, next = some thread -> thread.Holds sha256 state.record state.log) :
    ThreadStep sha256 thread state next after where
  owners := by rw [jobs, owns]
  record := .same record cancelled
  log := Or.inl log
  holds := by
    rw [record, log]
    exact holds

/-! ## Changes by a run -/

/-- The active run may make the change. -/
def Lawful (sha256 : String -> String) (state : PackState) (run : Nat) (change : OfflinePack -> OfflinePack) : Prop :=
  forall one, state.record = some one -> one.activeRun = some run -> Exists fun unbars => Exists fun readies =>
    OfflinePack.Changes none False unbars readies one (change one) ∧
      (forall index, readies index -> Backed sha256 one state index) ∧
      (one.Settled -> (change one).Settled) ∧ forall index, index ∈ state.cancelled -> ¬unbars index

variable {run : Nat} {change : OfflinePack -> OfflinePack}

/-- A change that lifts no cancellation and makes nothing ready. -/
theorem Lawful.plain (changes : forall one, state.record = some one -> one.activeRun = some run ->
      OfflinePack.Changes none False OfflinePack.Nothing OfflinePack.Nothing one (change one))
    (settled : forall one, one.activeRun = some run -> one.Settled -> (change one).Settled) :
    Lawful sha256 state run change :=
  fun one stored active => ⟨_, _, changes one stored active, fun _ => False.elim, settled one active, fun _ _ => id⟩

/-- Either nothing happens, or the record of the running pack is changed. -/
theorem mutateRunning_cases (state : PackState) (run : Nat) (change : OfflinePack -> OfflinePack) :
    (Exists fun error => state.mutateRunning run change = (.error error, state)) ∨
      Exists fun one => state.record = some one ∧ one.activeRun = some run ∧
        state.mutateRunning run change = (.ok ((change one).stamped state.clock),
          { state with record := some ((change one).stamped state.clock) }) := by
  unfold PackState.mutateRunning
  cases stored : state.record with
  | none => exact Or.inl ⟨_, rfl⟩
  | some one =>
    dsimp only
    split
    · exact Or.inl ⟨_, rfl⟩
    next active => exact Or.inr ⟨one, rfl, not_not.mp active, rfl⟩

variable {point target : RunPoint}

theorem mutateRunning_step (lawful : Lawful sha256 state run change)
    (holds : (PackThread.run run target).Holds sha256 state.record state.log) :
    ThreadStep sha256 (.run run point) state (some (.run run target)) (state.mutateRunning run change).2 := by
  rcases mutateRunning_cases state run change with ⟨error, same⟩ | ⟨one, stored, active, same⟩
  · rw [same]
    refine ThreadStep.move rfl rfl rfl rfl rfl ?_
    intro thread is
    cases is
    exact holds
  · rw [same]
    rcases lawful one stored active with ⟨unbars, readies, changes, backed, settled, spared⟩
    have record : RecordStep sha256 (.run run point) state
        { state with record := some ((change one).stamped state.clock) } := by
      refine .changed one _ False unbars readies stored rfl (changes.stamped _) backed settled ?_ ?_
      · exact fun respects => (changes.stamped _).respects respects spared
      · intro drawn at_ is _
        cases is
        exact active
    refine ⟨rfl, record, Or.inl rfl, ?_⟩
    intro thread is
    cases is
    exact PackThread.Holds.frame holds record (fun _ => id) (Or.inl rfl)

theorem mutating_step {target : OfflinePack -> RunPoint} {reply : PackReply}
    (moved : state.mutating run change target reply = some (next, after))
    (lawful : Lawful sha256 state run change)
    (holds : forall pack, (PackThread.run run (target pack)).Holds sha256 state.record state.log) :
    ThreadStep sha256 (.run run point) state next after := by
  have failing : forall error, (PackThread.run run (.failing error)).Holds sha256 state.record state.log :=
    fun error chosen impossible => by cases impossible
  cases reply with
  | done =>
    have step : forall target, (PackThread.run run target).Holds sha256 state.record state.log ->
        ThreadStep sha256 (.run run point) state (some (.run run target)) (state.mutateRunning run change).2 :=
      fun target => mutateRunning_step lawful
    unfold PackState.mutating at moved
    generalize state.mutateRunning run change = outcome at moved step
    rcases outcome with ⟨result, behind⟩
    cases result with
    | ok pack =>
      cases moved
      exact step _ (holds pack)
    | error error =>
      cases moved
      exact step _ (failing error)
  | failed error =>
    cases moved
    refine ThreadStep.move rfl rfl rfl rfl rfl ?_
    intro thread is
    cases is
    exact failing error
  | _ => cases moved

variable {chosen : Chosen}

theorem mark_lawful (holds : (PackThread.run run (.marking chosen)).Holds sha256 state.record state.log)
    (legal : forall one, state.record = some one -> one.activeRun = some run -> chosen.index ∉ state.cancelled) :
    Lawful sha256 state run fun pack => pack.mark chosen.index := by
  intro one stored active
  have spared := ((holds chosen rfl).1 one stored).2 active
  refine ⟨_, _, one.mark_changes spared, fun _ => False.elim, ?_, ?_⟩
  · exact fun _ => OfflinePack.settled_of_status fun ready => by cases ready
  · intro index member this
    rw [this] at member
    exact legal one stored active member

theorem store_lawful (holds : (PackThread.run run (.storing chosen)).Holds sha256 state.record state.log) :
    Lawful sha256 state run fun pack => pack.store chosen.index chosen.file.size := by
  intro one stored active
  rcases holds chosen rfl with ⟨known, published⟩
  rcases known one stored with ⟨file, spared⟩
  refine ⟨_, _, one.store_changes chosen.file.size (spared active), ?_, ?_, fun _ _ => id⟩
  · intro index this
    rw [this]
    exact ⟨chosen.file, file, Or.inr ⟨run, active, published rfl⟩⟩
  · exact fun settled => OfflinePack.settled_of_status (settled.unready active)

theorem note_lawful {error : String} {lost : Bool}
    (holds : (PackThread.run run (.noting chosen error lost)).Holds sha256 state.record state.log) :
    Lawful sha256 state run fun pack => pack.note chosen.index error lost := by
  refine Lawful.plain ?_ ?_
  · intro one stored active
    exact one.note_changes error lost (((holds chosen rfl).1 one stored).2 active)
  · intro one active settled
    exact OfflinePack.settled_of_status (one.note_status (settled.unready active))

theorem progress_lawful (run : Nat) (index bytes : Nat) :
    Lawful sha256 state run fun pack => pack.progress index bytes := by
  refine Lawful.plain (fun one _ _ => one.progress_changes index bytes) ?_
  intro one active settled
  exact OfflinePack.settled_of_status (settled.unready active)

theorem finish_lawful (run : Nat) : Lawful sha256 state run OfflinePack.finish :=
  Lawful.plain (fun one _ _ => one.finish_changes) fun one _ _ => one.finish_settled

theorem wait_lawful (run : Nat) (reason : String) : Lawful sha256 state run fun pack => pack.wait reason :=
  Lawful.plain (fun one _ _ => one.wait_changes reason) fun _ _ _ =>
    OfflinePack.settled_of_status fun ready => by cases ready

theorem fail_lawful (run : Nat) (error : String) : Lawful sha256 state run fun pack => pack.fail error :=
  Lawful.plain (fun one _ _ => one.fail_changes error) fun _ _ _ =>
    OfflinePack.settled_of_status fun ready => by cases ready

/-! ## Maintenance -/

/-- Maintenance may find the record as it is. -/
def Maintainable (sha256 : String -> String) (state : PackState) : Prop :=
  forall pack, state.record = some pack -> pack.isExpired state.clock = false -> state.jobs.isSome = true ->
    pack.status = .ready -> forall item, item ∈ pack.files -> isComplete sha256 state.files item.file = true

theorem sweep_frame (state : PackState) : state.sweep.record = state.record ∧ state.sweep.cancelled = state.cancelled ∧
    state.sweep.jobs = state.jobs ∧ state.sweep.log = state.log ∧ state.sweep.clock = state.clock := by
  unfold PackState.sweep
  split
  · exact ⟨rfl, rfl, rfl, rfl, rfl⟩
  · split
    · exact ⟨rfl, rfl, rfl, rfl, rfl⟩
    · split <;> exact ⟨rfl, rfl, rfl, rfl, rfl⟩

/-- While a job is registered, maintenance leaves the files of a pack alone that stays. -/
theorem sweep_files (stored : state.record = some pack)
    (stays : pack.isExpired state.clock = false) (running : state.jobs.isSome = true) :
    state.sweep.files = state.files := by
  unfold PackState.sweep
  rw [stored]
  dsimp only
  rw [stays, if_neg Bool.false_ne_true, if_pos running]

theorem maintain_frame (sha256 : String -> String) (state : PackState) :
    (state.maintain sha256).cancelled = state.cancelled ∧ (state.maintain sha256).jobs = state.jobs ∧
      (state.maintain sha256).log = state.log ∧ (state.maintain sha256).clock = state.clock := by
  have frame := sweep_frame state
  unfold PackState.maintain
  split
  · exact ⟨rfl, rfl, rfl, rfl⟩
  · split <;> exact ⟨frame.2.1, frame.2.2.1, frame.2.2.2.1, frame.2.2.2.2⟩

/-- The thread maintains the pack. -/
def PackThread.Maintains (thread : PackThread) : Prop :=
  thread.launches = none ∧ forall drawn point, thread = .run drawn point -> point = .expiring

/-- A maintaining thread expires a pack whose time is up. -/
theorem maintain_expired (maintains : thread.Maintains) (stored : state.record = some one)
    (expired : one.isExpired state.clock = true) : RecordStep sha256 thread state (state.maintain sha256) := by
  have record : (state.maintain sha256).record = some (one.expire.stamped state.clock) := by
    unfold PackState.maintain
    rw [stored]
    dsimp only
    rw [if_pos expired]
  have changes := one.expire_changes.stamped state.clock
  refine .changed one _ True OfflinePack.Nothing OfflinePack.Nothing stored record ?_ (fun _ => False.elim) ?_ ?_ ?_
  · rw [maintains.1]
    exact changes
  · exact fun _ => OfflinePack.settled_of_status fun ready => by cases ready
  · rw [(maintain_frame sha256 state).1]
    exact fun respects => changes.respects respects fun _ _ => id
  · exact fun run point is other => absurd (maintains.2 run point is) other

theorem maintain_stays (stored : state.record = some one) (stays : one.isExpired state.clock = false) :
    (state.maintain sha256).files = state.sweep.files ∧ Exists fun next => (state.maintain sha256).record = some next ∧
      (next = one.reconcile state.jobs.isSome (isComplete sha256 state.sweep.files) ∨
        next = (one.reconcile state.jobs.isSome (isComplete sha256 state.sweep.files)).stamped state.clock) := by
  unfold PackState.maintain
  rw [stored]
  dsimp only
  rw [if_neg (by rw [stays]; exact Bool.false_ne_true)]
  refine ⟨rfl, _, rfl, ?_⟩
  split
  next same => exact Or.inl same.symm
  · exact Or.inr rfl

theorem maintain_reconciles (maintains : thread.Maintains) (stored : state.record = some one)
    (stays : one.isExpired state.clock = false) (maintainable : Maintainable sha256 state) :
    RecordStep sha256 thread state (state.maintain sha256) := by
  have changes := one.reconcile_changes state.jobs.isSome (isComplete sha256 state.sweep.files)
  have settled : one.Settled -> (one.reconcile state.jobs.isSome (isComplete sha256 state.sweep.files)).Settled := by
    intro settled
    refine one.reconcile_settled settled ?_
    intro running ready item member
    rw [sweep_files stored stays running]
    exact maintainable one stored stays running ready item member
  rcases maintain_stays stored stays with ⟨files, next, record, either⟩
  have moves : OfflinePack.Changes none False OfflinePack.Nothing
      (fun index => Exists fun file => one.fileAt index = some file ∧ isComplete sha256 state.sweep.files file = true)
      one next ∧ (one.Settled -> next.Settled) := by
    rcases either with same | same
    · rw [same]
      exact ⟨changes, settled⟩
    · rw [same]
      exact ⟨changes.stamped _, settled⟩
  have launched := moves.1
  rw [← maintains.1] at launched
  refine .changed one next False _ _ stored record launched ?_ moves.2 ?_ ?_
  · rintro index ⟨file, here, complete⟩
    refine ⟨file, here, Or.inl ?_⟩
    rw [files]
    exact of_decide_eq_true complete
  · rw [(maintain_frame sha256 state).1]
    exact fun respects => moves.1.respects respects fun _ _ => id
  · exact fun run point is other => absurd (maintains.2 run point is) other

theorem maintain_record (maintains : thread.Maintains) (maintainable : Maintainable sha256 state) :
    RecordStep sha256 thread state (state.maintain sha256) := by
  cases stored : state.record with
  | none =>
    have same : state.maintain sha256 = state := by
      unfold PackState.maintain
      rw [stored]
    rw [same]
    exact .same rfl rfl
  | some one =>
    cases expired : one.isExpired state.clock with
    | true => exact maintain_expired maintains stored expired
    | false => exact maintain_reconciles maintains stored expired maintainable

theorem maintain_expires (stored : (state.maintain sha256).record = some pack)
    (late : pack.overdue state.clock = true) : forall item, item ∈ pack.files -> item.status = .expired := by
  cases before : state.record with
  | none =>
    unfold PackState.maintain at stored
    rw [before] at stored
    dsimp only at stored
    rw [before] at stored
    cases stored
  | some one =>
    cases expired : one.isExpired state.clock with
    | true =>
      unfold PackState.maintain at stored
      rw [before] at stored
      dsimp only at stored
      rw [if_pos expired] at stored
      cases stored
      intro item member
      rcases List.mem_map.mp member with ⟨was, -, same⟩
      rw [← same]
      rfl
    | false =>
      exfalso
      have stays : Exists fun next => (state.maintain sha256).record = some next ∧ _ :=
        (maintain_stays before expired).2
      rcases stays with ⟨next, record, either⟩
      rw [record] at stored
      cases stored
      have expiresAt : pack.expiresAt = one.expiresAt := by
        rcases either with same | same
        · rw [same]
          exact (one.reconcile_parts _ _).1
        · rw [same]
          exact (one.reconcile_parts _ _).1
      unfold OfflinePack.isExpired at expired
      unfold OfflinePack.overdue at late expired
      rw [← expiresAt, late, Bool.or_true] at expired
      cases expired

/-! ## Steps of a run -/

theorem holds_idle {record : Option OfflinePack} {log : List PackEntry}
    (idle : point.chosen = none) : (PackThread.run run point).Holds sha256 record log := by
  intro chosen picked
  rw [idle] at picked
  cases picked

theorem holds_on {record : Option OfflinePack} {log : List PackEntry}
    (holds : (PackThread.run run point).Holds sha256 record log) (same : target.chosen = point.chosen)
    (published : target.isPublished = true -> point.isPublished = true) :
    (PackThread.run run target).Holds sha256 record log := by
  intro chosen picked
  rw [same] at picked
  rcases holds chosen picked with ⟨known, done⟩
  exact ⟨known, fun is => done (published is)⟩

theorem ThreadStep.go {files : PackDirectory}
    (holds : (PackThread.run run target).Holds sha256 state.record state.log) :
    ThreadStep sha256 (.run run point) state (some (.run run target)) { state with files := files } := by
  refine ThreadStep.move rfl rfl rfl rfl rfl ?_
  intro thread is
  cases is
  exact holds

theorem choose_holds {log : List PackEntry}
    (picked : one.choose = some chosen) : (PackThread.run run (.gate chosen)).Holds sha256 (some one) log := by
  intro other same
  cases same
  refine ⟨?_, fun impossible => by cases impossible⟩
  intro pack is
  cases is
  unfold OfflinePack.choose at picked
  rw [Option.bind_eq_some_iff] at picked
  rcases picked with ⟨index, first, picked⟩
  rw [Option.map_eq_some_iff] at picked
  rcases picked with ⟨item, found, same⟩
  rw [← same]
  refine ⟨?_, ?_⟩
  · unfold OfflinePack.fileAt
    rw [found]
    rfl
  · intro _ expired
    unfold OfflinePack.statusAt at expired
    rw [found, Option.map_some] at expired
    rcases List.findIdx?_eq_some_iff_getElem.mp first with ⟨inside, unfinished, -⟩
    rw [List.getElem?_eq_getElem inside] at found
    rw [Option.some.inj found] at unfinished
    unfold PackItem.isUnfinished at unfinished
    rw [Option.some.inj expired] at unfinished
    cases unfinished

theorem reading_step (moved : state.runStep sha256 run .reading .done = some (next, after)) :
    ThreadStep sha256 (.run run .reading) state next after := by
  unfold PackState.runStep at moved
  dsimp only at moved
  cases stored : state.record with
  | none =>
    rw [stored] at moved
    cases moved
    exact ThreadStep.go (holds_idle rfl)
  | some pack =>
    rw [stored] at moved
    dsimp only at moved
    split at moved
    · cases moved
      exact ThreadStep.go (holds_idle rfl)
    · split at moved
      · cases moved
        exact ThreadStep.go (holds_idle rfl)
      · split at moved
        · cases moved
          exact ThreadStep.go (holds_idle rfl)
        next chosen picked =>
          cases moved
          refine ThreadStep.go ?_
          rw [stored]
          exact choose_holds picked

theorem rereading_step {outcome : DownloadEnd}
    (holds : (PackThread.run run (.rereading chosen outcome)).Holds sha256 state.record state.log)
    (moved : state.runStep sha256 run (.rereading chosen outcome) .done = some (next, after)) :
    ThreadStep sha256 (.run run (.rereading chosen outcome)) state next after := by
  unfold PackState.runStep at moved
  dsimp only at moved
  cases stored : state.record with
  | none =>
    rw [stored] at moved
    cases moved
    exact ThreadStep.go (holds_idle rfl)
  | some pack =>
    rw [stored] at moved
    dsimp only at moved
    split at moved
    · cases moved
      exact ThreadStep.go (holds_on holds rfl fun impossible => by cases impossible)
    · cases outcome with
      | done =>
        cases moved
        exact ThreadStep.go (holds_on holds rfl fun _ => rfl)
      | failed error lost =>
        cases moved
        exact ThreadStep.go (holds_on holds rfl fun impossible => by cases impossible)

theorem renamed_step
    (holds : (PackThread.run run (.downloading chosen false)).Holds sha256 state.record state.log)
    (moved : state.runStep sha256 run (.downloading chosen false) .renamed = some (next, after)) :
    ThreadStep sha256 (.run run (.downloading chosen false)) state next after := by
  cases moved
  refine ⟨rfl, .same rfl rfl, Or.inr ⟨_, rfl, trivial⟩, ?_⟩
  intro thread is
  cases is
  intro other picked
  cases picked
  exact ⟨(holds chosen rfl).1, fun _ => List.mem_cons_self⟩

theorem runStep_step {reply : PackReply} (registered : state.jobs.isSome = true)
    (holds : (PackThread.run run point).Holds sha256 state.record state.log)
    (maintainable : point = .expiring -> Maintainable sha256 state)
    (legal : forall chosen, point = .marking chosen -> forall one, state.record = some one ->
      one.activeRun = some run -> chosen.index ∉ state.cancelled)
    (moved : state.runStep sha256 run point reply = some (next, after)) :
    ThreadStep sha256 (.run run point) state next after := by
  cases point with
  | top =>
    cases reply <;> cases moved
    refine ThreadStep.go (holds_idle ?_)
    split <;> rfl
  | reading =>
    cases reply with
    | done => exact reading_step moved
    | failed error =>
      cases moved
      exact ThreadStep.go (holds_idle rfl)
    | _ => cases moved
  | expiring =>
    cases reply with
    | done =>
      cases moved
      have frame := maintain_frame sha256 state
      refine ⟨?_, maintain_record ⟨rfl, fun _ _ is => by cases is; rfl⟩ (maintainable rfl), Or.inl frame.2.2.1, ?_⟩
      · rw [frame.2.1]
        rfl
      · intro thread is
        cases is
        exact holds_idle rfl
    | failed error =>
      cases moved
      exact ThreadStep.go (holds_idle rfl)
    | failedLate error =>
      cases moved
      have frame := sweep_frame state
      refine ThreadStep.move frame.2.2.1 frame.1 frame.2.1 frame.2.2.2.1 rfl ?_
      intro thread is
      cases is
      exact holds_idle rfl
    | _ => cases moved
  | finishing => exact mutating_step moved (finish_lawful run) fun _ => holds_idle rfl
  | gate chosen =>
    cases reply with
    | network status =>
      unfold PackState.runStep at moved
      dsimp only at moved
      split at moved
      · cases moved
        exact ThreadStep.go (holds_idle rfl)
      · cases moved
        exact ThreadStep.go (holds_on holds rfl id)
    | _ => cases moved
  | space chosen =>
    cases reply with
    | space bytes =>
      change (if _ then some (some (PackThread.run run _), state) else _) = _ at moved
      split at moved
      · cases moved
        exact ThreadStep.go (holds_idle rfl)
      · cases moved
        exact ThreadStep.go (holds_on holds rfl id)
    | failed error =>
      cases moved
      exact ThreadStep.go (holds_idle rfl)
    | _ => cases moved
  | waiting reason => exact mutating_step moved (wait_lawful run reason) fun _ => holds_idle rfl
  | marking chosen =>
    exact mutating_step moved (mark_lawful holds (legal chosen rfl)) fun _ => holds_on holds rfl id
  | downloading chosen renamed =>
    cases reply with
    | progress bytes =>
      cases moved
      exact mutateRunning_step (progress_lawful run chosen.index bytes) holds
    | renamed =>
      cases renamed with
      | false => exact renamed_step holds moved
      | true => cases moved
    | done =>
      cases renamed with
      | false => cases moved
      | true =>
        cases moved
        exact ThreadStep.go (holds_on holds rfl fun _ => rfl)
    | stopped error lost =>
      cases renamed <;> cases moved <;>
        exact ThreadStep.go (holds_on holds rfl fun impossible => by cases impossible)
    | _ => cases renamed <;> cases moved
  | cleaning chosen outcome =>
    cases reply <;> cases moved
    exact ThreadStep.go (holds_on holds rfl id)
  | checking chosen outcome =>
    cases reply <;> cases moved
    refine ThreadStep.go ?_
    split
    · exact holds_idle rfl
    · exact holds_on holds rfl id
  | dating chosen outcome =>
    cases reply with
    | done =>
      change (if _ then some (some (PackThread.run run _), state) else _) = _ at moved
      split at moved
      · cases moved
        exact ThreadStep.go (holds_idle rfl)
      · cases moved
        exact ThreadStep.go (holds_on holds rfl id)
    | _ => cases moved
  | rereading chosen outcome =>
    cases reply with
    | done => exact rereading_step holds moved
    | failed error =>
      cases moved
      exact ThreadStep.go (holds_idle rfl)
    | _ => cases moved
  | discarding chosen =>
    cases reply <;> cases moved <;> exact ThreadStep.go (holds_idle rfl)
  | storing chosen =>
    refine mutating_step moved (store_lawful holds) fun pack => ?_
    split
    · exact holds_on holds rfl fun impossible => by cases impossible
    · exact holds_idle rfl
  | noting chosen error lost => exact mutating_step moved (note_lawful holds) fun _ => holds_idle rfl
  | failing error =>
    cases reply with
    | done =>
      cases moved
      exact mutateRunning_step (fail_lawful run error) (holds_idle rfl)
    | failed error =>
      cases moved
      exact ThreadStep.go (holds_idle rfl)
    | _ => cases moved
  | tidying =>
    cases reply <;> cases moved
    exact ThreadStep.go (holds_idle rfl)
  | leaving =>
    cases reply <;> cases moved
    refine ⟨?_, .same rfl rfl, Or.inl rfl, fun thread impossible => by cases impossible⟩
    rcases Option.isSome_iff_exists.mp registered with ⟨job, same⟩
    rw [same]
    rfl

/-! ## Steps of a command -/

theorem ThreadStep.pass {point : CallPoint} {files : PackDirectory} {flags : List Nat}
    (owns : next.any PackThread.owns = (PackThread.call point).owns)
    (holds : forall thread, next = some thread -> thread.Holds sha256 state.record state.log) :
    ThreadStep sha256 (.call point) state next
      { state with
        files := files
        flags := flags } :=
  ThreadStep.move rfl rfl rfl rfl owns holds

theorem enter_idle (state : PackState) (call : PackCall) :
    ((state.enter call).map PackThread.call).any PackThread.owns = false := by
  cases call with
  | list | verify key => rfl
  | act action key => cases action <;> rfl
  | resume =>
    unfold PackState.enter
    dsimp only
    by_cases resumes : state.record.any (fun pack => pack.autoResume &&
        (pack.status == .queued || pack.status == .running || pack.status == .waiting)) = true
    · rw [if_pos resumes]
      rfl
    · rw [if_neg resumes]
      rfl

theorem entering_step {call : PackCall} (maintainable : Maintainable sha256 state)
    (moved : state.callStep sha256 (.entering call) .done = some (next, after)) :
    ThreadStep sha256 (.call (.entering call)) state next after := by
  cases moved
  have frame := maintain_frame sha256 state
  have record : RecordStep sha256 (.call (.entering call)) state (state.maintain sha256) :=
    maintain_record ⟨rfl, fun _ _ is => by cases is⟩ maintainable
  refine ⟨?_, record, Or.inl frame.2.2.1, ?_⟩
  · rw [frame.2.1, enter_idle]
    rfl
  · intro thread is
    cases call with
    | list => cases is
    | resume =>
      unfold PackState.enter at is
      dsimp only at is
      split at is
      · cases is
        trivial
      · cases is
    | act action key => cases action <;> cases is <;> trivial
    | verify key =>
      cases is
      intro pack stored late
      rw [frame.2.2.2] at late
      exact maintain_expires stored late

theorem updating_step {action : PackAction} {key : Option String}
    (moved : state.callStep sha256 (.updating action key) .done = some (next, after)) :
    ThreadStep sha256 (.call (.updating action key)) state next after := by
  unfold PackState.callStep at moved
  dsimp only at moved
  cases stored : state.record with
  | none =>
    rw [stored] at moved
    cases moved
    exact ThreadStep.pass rfl fun thread is => by cases is
  | some pack =>
    rw [stored] at moved
    dsimp only at moved
    split at moved
    · cases moved
      exact ThreadStep.pass rfl fun thread is => by cases is
    next changed acted =>
      have record : forall after : PackState, after.record = some changed ->
          after.cancelled = cancellations pack action key state.cancelled ->
          RecordStep sha256 (.call (.updating action key)) state after := by
        intro after behind cancelled
        have nothing : OfflinePack.Respects [] pack := fun _ member => by cases member
        rcases (pack.act_changes acted nothing).1 with ⟨unbars, changes⟩
        refine .changed pack changed False unbars OfflinePack.Nothing stored behind changes (fun _ => False.elim)
          (fun settled => pack.act_settled settled acted) ?_ fun run point is => by cases is
        intro respects
        rw [cancelled]
        exact (pack.act_changes acted respects).2
      cases moved
      refine ⟨?_, record _ rfl rfl, Or.inl rfl, ?_⟩
      · cases action <;> rfl
      · intro thread is
        cases action <;> cases is <;> trivial

theorem preparing_step (moved : state.callStep sha256 (.preparing run) .done = some (next, after)) :
    ThreadStep sha256 (.call (.preparing run)) state next after := by
  unfold PackState.callStep at moved
  dsimp only at moved
  cases stored : state.record with
  | none =>
    rw [stored] at moved
    cases moved
    exact ThreadStep.pass rfl fun thread is => by cases is; trivial
  | some pack =>
    rw [stored] at moved
    dsimp only at moved
    split at moved
    · cases moved
      exact ThreadStep.pass rfl fun thread is => by cases is; trivial
    · cases moved
      have changes := (pack.launch_changes run).stamped state.clock
      refine ⟨rfl, ?_, Or.inl rfl, ?_⟩
      · refine .changed pack _ False OfflinePack.Nothing OfflinePack.Nothing stored rfl changes (fun _ => False.elim) ?_ ?_
          fun drawn point is => by cases is
        · exact fun _ => OfflinePack.settled_of_status fun ready => by cases ready
        · exact fun respects => changes.respects respects fun _ _ => id
      · intro thread is
        cases is
        exact holds_idle rfl

theorem found_step {key : String} {since : Int}
    (holds : (PackThread.call (.reading key since)).Holds sha256 state.record state.log)
    (moved : state.callStep sha256 (.reading key since) .done = some (next, after)) :
    ThreadStep sha256 (.call (.reading key since)) state next after := by
  unfold PackState.callStep at moved
  dsimp only at moved
  cases stored : state.record with
  | none =>
    rw [stored] at moved
    cases moved
    exact ThreadStep.pass rfl fun thread is => by cases is
  | some pack =>
    rw [stored] at moved
    dsimp only at moved
    split at moved
    · cases moved
      exact ThreadStep.pass rfl fun thread is => by cases is
    next unexpired =>
      split at moved
      · cases moved
        exact ThreadStep.pass rfl fun thread is => by cases is
      next item found =>
        cases moved
        refine ⟨rfl, .same stored.symm rfl, Or.inr ⟨_, rfl, stored⟩, ?_⟩
        intro thread is
        cases is
        have member := List.mem_of_find?_eq_some found
        have keyed := List.find?_some found
        rw [Bool.and_eq_true, beq_iff_eq, beq_iff_eq] at keyed
        refine ⟨List.mem_cons_self, member, keyed.2, unexpired, ?_⟩
        rw [← Bool.not_eq_true]
        intro late
        have expired := holds pack stored late item member
        rw [keyed.2] at expired
        cases expired

theorem returned_step {item : PackItem} {since : Int}
    (holds : (PackThread.call (.resolving pack item since)).Holds sha256 state.record state.log)
    (moved : state.callStep sha256 (.resolving pack item since) .done = some (next, after)) :
    ThreadStep sha256 (.call (.resolving pack item since)) state next after := by
  unfold PackState.callStep at moved
  dsimp only at moved
  split at moved
  · cases moved
    exact ThreadStep.pass rfl fun thread is => by cases is
  next path exists_ =>
    cases moved
    refine ⟨rfl, .same rfl rfl, Or.inr ⟨_, rfl, holds, ?_⟩, fun thread is => by cases is⟩
    unfold existingPath at exists_
    split at exists_
    · cases exists_
    next size present =>
      split at exists_
      next same => rw [present, same]
      · cases exists_

theorem callStep_step {point : CallPoint} {reply : PackReply}
    (registered : (PackThread.call point).owns = true -> state.jobs.isSome = true)
    (holds : (PackThread.call point).Holds sha256 state.record state.log)
    (maintainable : forall call, point = .entering call -> Maintainable sha256 state)
    (moved : state.callStep sha256 point reply = some (next, after)) :
    ThreadStep sha256 (.call point) state next after := by
  have ends : forall point files flags, (PackThread.call point).owns = false ->
      ThreadStep sha256 (.call point) state none { state with files := files, flags := flags } :=
    fun point files flags idle => ThreadStep.pass (by rw [idle]; rfl) fun thread is => by cases is
  cases point with
  | entering call =>
    cases reply with
    | done => exact entering_step (maintainable call rfl) moved
    | failed error =>
      cases moved
      exact ends _ state.files state.flags rfl
    | failedLate error =>
      cases moved
      have frame := sweep_frame state
      exact ThreadStep.move frame.2.2.1 frame.1 frame.2.1 frame.2.2.2.1 rfl fun thread is => by cases is
    | _ => cases moved
  | checking action key =>
    cases reply with
    | done =>
      unfold PackState.callStep at moved
      dsimp only at moved
      split at moved
      · cases moved
        exact ThreadStep.pass rfl fun thread is => by cases is; trivial
      · cases moved
        refine ThreadStep.pass ?_ ?_
        · split <;> rfl
        · intro thread is
          split at is
          · cases is
            trivial
          · cases is
    | _ => cases moved
  | awaiting action key =>
    cases reply with
    | done =>
      change (if _ then none else some (some (PackThread.call (.updating action key)), state)) = _ at moved
      split at moved
      · cases moved
      · cases moved
        exact ThreadStep.pass rfl fun thread is => by cases is; trivial
    | failed error =>
      cases moved
      exact ends _ state.files state.flags rfl
    | _ => cases moved
  | stopping action key =>
    cases reply <;> cases moved
    exact ThreadStep.pass rfl fun thread is => by cases is; trivial
  | updating action key =>
    cases reply with
    | done => exact updating_step moved
    | failed error =>
      cases moved
      exact ends _ state.files state.flags rfl
    | _ => cases moved
  | registering =>
    cases reply with
    | done =>
      change (if _ then some (none, state) else _) = _ at moved
      split at moved
      · cases moved
        exact ends _ state.files state.flags rfl
      next free =>
        cases moved
        rw [Bool.not_eq_true, Option.isSome_eq_false_iff, Option.isNone_iff_eq_none] at free
        refine ⟨?_, .same rfl rfl, Or.inl rfl, fun thread is => by cases is; trivial⟩
        rw [free]
        rfl
    | failed error =>
      cases moved
      exact ends _ state.files state.flags rfl
    | _ => cases moved
  | preparing run =>
    cases reply with
    | done => exact preparing_step moved
    | failed error =>
      cases moved
      exact ThreadStep.pass rfl fun thread is => by cases is; trivial
    | _ => cases moved
  | unregistering =>
    cases reply <;> cases moved
    refine ⟨?_, .same rfl rfl, Or.inl rfl, fun thread impossible => by cases impossible⟩
    rcases Option.isSome_iff_exists.mp (registered rfl) with ⟨job, same⟩
    rw [same]
    rfl
  | draining =>
    cases reply with
    | done =>
      change (if _ then none else some (some (PackThread.call .deleting), state)) = _ at moved
      split at moved
      · cases moved
      · cases moved
        exact ThreadStep.pass rfl fun thread is => by cases is; trivial
    | failed error =>
      cases moved
      exact ends _ state.files state.flags rfl
    | _ => cases moved
  | deleting =>
    cases reply with
    | done =>
      cases moved
      exact ThreadStep.pass rfl fun thread is => by cases is; trivial
    | failed error =>
      cases moved
      exact ends _ state.files state.flags rfl
    | _ => cases moved
  | dropping =>
    cases reply with
    | done =>
      cases moved
      exact ⟨rfl, .gone rfl ⟨_, rfl⟩, Or.inl rfl, fun thread is => by cases is⟩
    | failed error =>
      cases moved
      exact ends _ state.files state.flags rfl
    | _ => cases moved
  | reading key since =>
    cases reply with
    | done => exact found_step holds moved
    | failed error =>
      cases moved
      exact ends _ state.files state.flags rfl
    | _ => cases moved
  | resolving pack item since =>
    cases reply with
    | done => exact returned_step holds moved
    | failed error =>
      cases moved
      exact ends _ state.files state.flags rfl
    | _ => cases moved

end Proofs

end Workspace
end TelegramDrive
