import TelegramDrive.Library.Results
import TelegramDrive.Workspace.PackThreads

namespace TelegramDrive
namespace Workspace

/-!
# What an offline pack claims

A thread owns the job that is registered for the pack, so there is at most one run.  An
item becomes ready only when the active run has published its file, or when maintenance
finds a complete copy.  A pack that is ready has no active run, so no run changes the items
of a ready pack.

Two changes need a condition.  A run that marks an item as being downloaded does not look
whether the user cancelled it since it was chosen, and maintenance that finds the copy of a
ready item gone leaves the pack ready while a job is registered.
-/

section Proofs

variable {sha256 : String -> String} {thread : PackThread} {state after : PackState}

/-! ## Steps -/

theorem Honest.cons {log : List PackEntry} {entry : PackEntry} (honest : Honest log)
    (fits : forall pack item since, entry = .returned pack item since -> Found log pack item since) :
    Honest (entry :: log) := by
  intro later pack item since earlier same
  cases later with
  | nil =>
    rw [List.nil_append, List.cons.injEq] at same
    rw [← same.2]
    exact fits pack item since same.1
  | cons first later =>
    rw [List.cons_append, List.cons.injEq] at same
    exact honest later pack item since earlier same.2

theorem PackState.Sound.advance {next : Option PackThread} {before rest threads : List PackThread} (sound : state.Sound sha256)
    (split : state.threads = before ++ thread :: rest) (threads_eq : threads = before ++ (next.toList ++ rest))
    (step : ThreadStep sha256 thread state next after) :
    ({ after with threads := threads } : PackState).Sound sha256 := by
  have owners := sound.owners
  rw [split, List.countP_append, List.countP_cons] at owners
  have few : state.jobs.toList.length ≤ 1 := by
    cases state.jobs with
    | none => exact Nat.zero_le 1
    | some job => exact Nat.le_refl 1
  have alone : forall other, other ∈ before ++ rest -> thread.launches = none ∨ other.owns = false := by
    intro other member
    cases owned : thread.owns with
    | false =>
      refine Or.inl ?_
      cases thread with
      | run drawn point => rfl
      | call point =>
        cases point with
        | preparing drawn => cases owned
        | _ => rfl
    | true =>
      refine Or.inr ?_
      rw [if_pos owned] at owners
      have idle : (before ++ rest).countP PackThread.owns = 0 := by
        rw [List.countP_append]
        omega
      rw [← Bool.not_eq_true]
      exact List.countP_eq_zero.mp idle other member
  constructor
  · show threads.countP PackThread.owns = after.jobs.toList.length
    have moved := step.owners
    have joined : next.toList.countP PackThread.owns = if next.any PackThread.owns then 1 else 0 := by
      cases next with
      | none => rfl
      | some target =>
        rw [Option.toList_some, List.countP_singleton]
        rfl
    rw [threads_eq, List.countP_append, List.countP_append, joined]
    omega
  · intro other member
    change other ∈ threads at member
    rw [threads_eq, List.mem_append, List.mem_append] at member
    show other.Holds sha256 after.record after.log
    rcases member with member | member | member
    · refine PackThread.Holds.frame (sound.holds other ?_) step.record step.kept (alone other ?_)
      · rw [split]
        exact List.mem_append_left _ member
      · exact List.mem_append_left _ member
    · exact step.holds other (Option.mem_toList.mp member)
    · refine PackThread.Holds.frame (sound.holds other ?_) step.record step.kept (alone other ?_)
      · rw [split]
        exact List.mem_append_right _ (List.mem_cons_of_mem _ member)
      · exact List.mem_append_right _ member
  · intro pack stored
    change after.record = some pack at stored
    rcases step.record with ⟨same, -⟩ | ⟨gone, -⟩ | ⟨one, behind, _, _, _, was, now, -, -, settled, -, -⟩
    · rw [same] at stored
      exact sound.settled pack stored
    · rw [gone] at stored
      cases stored
    · rw [now] at stored
      cases stored
      exact settled (sound.settled one was)
  · intro pack stored
    change after.record = some pack at stored
    show OfflinePack.Respects after.cancelled pack
    rcases step.record with ⟨same, cancelled⟩ | ⟨gone, -⟩ | ⟨one, behind, _, _, _, was, now, -, -, -, respects, -⟩
    · rw [same] at stored
      rw [cancelled]
      exact sound.respects pack stored
    · rw [gone] at stored
      cases stored
    · rw [now] at stored
      cases stored
      exact respects (sound.respects one was)
  · show Honest after.log
    rcases step.log with same | ⟨entry, same, fits⟩
    · rw [same]
      exact sound.honest
    · rw [same]
      refine sound.honest.cons ?_
      intro pack item since is
      rw [is] at fits
      exact fits.1

theorem PackState.Sound.registered (sound : state.Sound sha256) (member : thread ∈ state.threads) (owns : thread.owns = true) :
    state.jobs.isSome = true := by
  have owners := sound.owners
  have some_ : 0 < state.threads.countP PackThread.owns := List.countP_pos_iff.mpr ⟨thread, member, owns⟩
  cases same : state.jobs with
  | none =>
    rw [same] at owners
    rw [owners] at some_
    cases some_
  | some job => rfl

theorem careful_maintains {index : Nat} {reply : PackReply} (legal : careful sha256 state (.advance index reply) = true)
    (found : state.threads[index]? = some thread)
    (maintains : (Exists fun drawn => thread = .run drawn .expiring) ∨ Exists fun call => thread = .call (.entering call)) :
    Maintainable sha256 state := by
  intro pack stored stays running ready item member
  have allowed : (pack.isExpired state.clock || state.jobs.isNone || pack.status != .ready ||
      pack.files.all fun item => isComplete sha256 state.files item.file) = true := by
    unfold careful at legal
    dsimp only at legal
    rw [found, stored] at legal
    rcases maintains with ⟨drawn, same⟩ | ⟨call, same⟩
    · rw [same] at legal
      exact legal
    · rw [same] at legal
      exact legal
  rw [stays, ready, Bool.false_or, bne_self_eq_false, Bool.or_false, Bool.or_eq_true] at allowed
  rcases allowed with idle | complete
  · rw [Option.isNone_iff_eq_none] at idle
    rw [idle] at running
    cases running
  · exact List.all_eq_true.mp complete item member

theorem advance_step {index : Nat} {reply : PackReply} {next : Option PackThread} (sound : state.Sound sha256)
    (legal : careful sha256 state (.advance index reply) = true) (found : state.threads[index]? = some thread)
    (moved : state.threadStep sha256 thread reply = some (next, after)) :
    ThreadStep sha256 thread state next after := by
  have member := List.mem_of_getElem? found
  cases thread with
  | run drawn point =>
    refine runStep_step (sound.registered member rfl) (sound.holds _ member) ?_ ?_ moved
    · intro expiring
      exact careful_maintains legal found (Or.inl ⟨drawn, by rw [expiring]⟩)
    · intro chosen marking one stored active
      unfold careful at legal
      dsimp only at legal
      rw [found, stored, marking] at legal
      exact (of_decide_eq_true legal).resolve_left (not_not.mpr active)
  | call point =>
    refine callStep_step (sound.registered member) (sound.holds _ member) ?_ moved
    intro call entering
    exact careful_maintains legal found (Or.inr ⟨call, by rw [entering]⟩)

/-- What a step does is the step of a thread, or leaves the record and what happened alone. -/
theorem pack_step_cases {event : PackEvent} {next : PackState} (sound : state.Sound sha256)
    (legal : careful sha256 state event = true) (moved : state.step sha256 event = some next) :
    (Exists fun index => Exists fun reply => Exists fun thread => Exists fun target => Exists fun after =>
      event = .advance index reply ∧ state.threads[index]? = some thread ∧
        ThreadStep sha256 thread state target after ∧ next = { after with threads := next.threads }) ∨
      next.record = state.record ∧ next.log = state.log ∧ forall index reply, event ≠ .advance index reply := by
  cases event with
  | advance index reply =>
    change (state.threads[index]?).bind _ = some next at moved
    rw [Option.bind_eq_some_iff] at moved
    rcases moved with ⟨thread, found, moved⟩
    rw [Option.map_eq_some_iff] at moved
    rcases moved with ⟨⟨target, after⟩, stepped, same⟩
    refine Or.inl ⟨index, reply, thread, target, after, rfl, found, advance_step sound legal found stepped, ?_⟩
    rw [← same]
  | begin call | outside files | tick clock | crash =>
    cases moved
    exact Or.inr ⟨rfl, rfl, fun _ _ impossible => by cases impossible⟩

theorem pack_step_sound {event : PackEvent} {next : PackState} (sound : state.Sound sha256)
    (legal : careful sha256 state event = true) (moved : state.step sha256 event = some next) : next.Sound sha256 := by
  cases event with
  | advance index reply =>
    change (state.threads[index]?).bind _ = some next at moved
    rw [Option.bind_eq_some_iff] at moved
    rcases moved with ⟨thread, found, moved⟩
    rw [Option.map_eq_some_iff] at moved
    rcases moved with ⟨⟨target, after⟩, stepped, same⟩
    rcases Machine.threads_around found with ⟨before, rest, split, erased, replaced⟩
    rw [← same]
    refine PackState.Sound.advance sound split ?_ (advance_step sound legal found stepped)
    cases target with
    | none => exact erased
    | some target => exact replaced target
  | begin call =>
    cases moved
    refine ⟨?_, ?_, sound.settled, sound.respects, sound.honest⟩
    · show (_ :: state.threads).countP _ = _
      rw [List.countP_cons_of_neg fun impossible => by cases impossible]
      exact sound.owners
    · intro thread member
      rcases List.mem_cons.mp member with same | member
      · rw [same]
        trivial
      · exact sound.holds thread member
  | outside files | tick clock =>
    cases moved
    exact ⟨sound.owners, sound.holds, sound.settled, sound.respects, sound.honest⟩
  | crash =>
    cases moved
    exact ⟨rfl, fun thread member => (List.not_mem_nil member).elim, sound.settled, sound.respects, sound.honest⟩

/-! ## Runs -/

/-- A pack begins paused. -/
theorem createRecord_status {file : String -> Option PackFile} {request : PackRequest} {now : Int} {pack : OfflinePack}
    (created : createRecord file request now = .ok pack) : pack.status = .paused := by
  unfold createRecord at created
  dsimp only at created
  split at created
  · cases created
  · split at created
    · cases created
    · rcases Results.bind_ok created with ⟨files, -, counted⟩
      rcases Results.bind_ok counted with ⟨bytes, -, same⟩
      cases same
      rfl

theorem pack_starts_sound (starts : state.Starts) : state.Sound sha256 := by
  rcases starts with ⟨⟨pack, stored, file, request, now, created⟩, jobs, threads, cancelled, log⟩
  constructor
  · rw [threads, jobs]
    rfl
  · intro thread member
    rw [threads] at member
    cases member
  · intro other same
    rw [stored] at same
    cases same
    refine OfflinePack.settled_of_status ?_
    rw [createRecord_status created]
    decide
  · intro other _ index member
    rw [cancelled] at member
    cases member
  · intro later pack item since earlier same
    rw [log] at same
    exact absurd same.symm (List.append_ne_nil_of_right_ne_nil _ (List.cons_ne_nil _ _))

end Proofs

/-! ## What a pack claims -/

/-- The bytes that the pack still needs. -/
def OfflinePack.needed (pack : OfflinePack) : Nat :=
  ((pack.files.filter fun item => decide (item.status ≠ .ready ∧ item.status ≠ .unsupported)).map
    fun item => item.file.size).sum

theorem foldBytes (items : List PackItem) (bytes : Nat) (small : bytes < 2 ^ 64) :
    items.foldlM (fun bytes item =>
        if bytes + item.file.size < 2 ^ 64 then Except.ok (bytes + item.file.size) else .error "PACK_TOO_LARGE") bytes =
      if bytes + (items.map fun item => item.file.size).sum < 2 ^ 64 then
        .ok (bytes + (items.map fun item => item.file.size).sum)
      else .error "PACK_TOO_LARGE" := by
  induction items generalizing bytes with
  | nil =>
    rw [List.foldlM_nil, List.map_nil, List.sum_nil, Nat.add_zero, if_pos small]
    rfl
  | cons item items ih =>
    rw [List.foldlM_cons, List.map_cons, List.sum_cons, ← Nat.add_assoc]
    by_cases fits : bytes + item.file.size < 2 ^ 64
    · rw [if_pos fits]
      exact ih _ fits
    · rw [if_neg fits, if_neg fun more => fits (Nat.lt_of_le_of_lt (Nat.le_add_right _ _) more)]
      rfl

/-- The sum is refused only where it leaves the range of the counter. -/
theorem OfflinePack.requiredBytes_eq (pack : OfflinePack) :
    pack.requiredBytes = if pack.needed < 2 ^ 64 then .ok pack.needed else .error "PACK_TOO_LARGE" := by
  have same : pack.files.filter PackItem.counts =
      pack.files.filter fun item => decide (item.status ≠ .ready ∧ item.status ≠ .unsupported) := by
    refine List.filter_congr ?_
    intro item _
    unfold PackItem.counts
    rw [Bool.decide_and, decide_not, decide_not]
    rfl
  unfold requiredBytes needed
  rw [same, foldBytes _ 0 (by decide), Nat.zero_add]

def PackThread.isRun : PackThread -> Bool
  | .run _ _ => true
  | .call _ => false

/-- What a step of the pack honours. -/
structure StepHonest (sha256 : String -> String) (state : PackState) (event : PackEvent) (next : PackState) : Prop where
  stale : forall index reply run point, event = .advance index reply -> state.threads[index]? = some (.run run point) ->
    point ≠ .expiring -> (forall pack, state.record = some pack -> pack.activeRun ≠ some run) -> next.record = state.record
  published : forall one after, state.record = some one -> next.record = some after -> forall index,
    after.statusAt index = some .ready -> one.statusAt index ≠ some .ready -> Backed sha256 one next index
  read : forall pack since, next.log = .read pack since :: state.log -> state.record = some pack
  returned : forall pack item since, next.log = .returned pack item since :: state.log ->
    state.files (item.file.fileName sha256) = some item.file.size

/-- What holds in every state of a pack. -/
structure PackHonest (state : PackState) : Prop where
  sole : state.threads.countP PackThread.isRun ≤ 1
  ready : forall pack, state.record = some pack -> pack.status = .ready ->
    forall item, item ∈ pack.files -> item.status = .ready
  cancelled : forall pack index, state.record = some pack -> index ∈ state.cancelled ->
    pack.statusAt index ≠ some .ready
  returned : Honest state.log

section Main

variable {sha256 : String -> String} {state next : PackState} {event : PackEvent}

theorem PackState.Sound.honest_state (sound : state.Sound sha256) : PackHonest state := by
  constructor
  · have owners := sound.owners
    have fewer : state.threads.countP PackThread.isRun ≤ state.threads.countP PackThread.owns := by
      refine List.countP_mono_left ?_
      intro thread _ is
      cases thread with
      | run run point => rfl
      | call point => cases is
    have few : state.jobs.toList.length ≤ 1 := by
      cases state.jobs with
      | none => exact Nat.zero_le 1
      | some job => exact Nat.le_refl 1
    omega
  · intro pack stored ready
    exact pack.allReady_iff.mp (sound.settled pack stored ready).2
  · intro pack index stored member ready
    rcases sound.respects pack stored index member with ⟨item, found, barred⟩
    unfold OfflinePack.statusAt at ready
    rw [found, Option.map_some, Option.some.injEq] at ready
    rcases barred with same | same
    · rw [same] at ready
      cases ready
    · rw [same] at ready
      cases ready
  · exact sound.honest

theorem step_honest (sound : state.Sound sha256) (legal : careful sha256 state event = true)
    (moved : state.step sha256 event = some next) : StepHonest sha256 state event next := by
  rcases pack_step_cases sound legal moved with
    ⟨index, reply, thread, target, after, is, found, step, same⟩ | ⟨record, log, other⟩
  · have record : next.record = after.record := by rw [same]
    have log : next.log = after.log := by rw [same]
    have files : next.files = after.files := by rw [same]
    constructor
    · intro index_ reply_ run point is_ found_ unexpiring stale
      rw [is] at is_
      cases is_
      rw [found] at found_
      cases found_
      rw [record]
      rcases step.record with ⟨same, -⟩ | ⟨-, call, calls⟩ | ⟨one, _, _, _, _, was, -, -, -, -, -, actor⟩
      · exact same
      · cases calls
      · exact absurd (actor run point rfl unexpiring) (stale one was)
    · intro one behind was now index ready before
      rw [record] at now
      have backed : Backed sha256 one after index := by
        rcases step.record with ⟨same, -⟩ | ⟨gone, -⟩ | ⟨old, new, _, _, _, was_, now_, changes, backed, -⟩
        · rw [same, was] at now
          cases now
          exact absurd ready before
        · rw [gone] at now
          cases now
        · rw [was] at was_
          cases was_
          rw [now] at now_
          cases now_
          exact backed index (changes.becameReady ready before)
      rcases backed with ⟨file, here, either⟩
      refine ⟨file, here, ?_⟩
      rw [files, log]
      exact either
    · intro pack since more
      rw [log] at more
      rcases step.log with same | ⟨entry, same, fits⟩
      · rw [same] at more
        exact absurd more.symm (List.cons_ne_self _ _)
      · rw [same] at more
        cases more
        exact fits
    · intro pack item since more
      rw [log] at more
      rcases step.log with same | ⟨entry, same, fits⟩
      · rw [same] at more
        exact absurd more.symm (List.cons_ne_self _ _)
      · rw [same] at more
        cases more
        exact fits.2
  · constructor
    · intro index reply run point is
      exact absurd is (other index reply)
    · intro one behind was now index ready before
      rw [record, was] at now
      cases now
      exact absurd ready before
    · intro pack since more
      rw [log] at more
      exact absurd more.symm (List.cons_ne_self _ _)
    · intro pack item since more
      rw [log] at more
      exact absurd more.symm (List.cons_ne_self _ _)

theorem pack_run_sound {initial : PackState} {events : List PackEvent} (starts : initial.Starts)
    (run : (packMachine sha256).Run (fun state event => careful sha256 state event = true) initial events state) :
    state.Sound sha256 :=
  run.invariant (fun state => state.Sound sha256) (fun _ _ _ legal sound moved => pack_step_sound sound legal moved)
    (pack_starts_sound starts)

end Main

/-! ## Losing a cancellation -/

def tripRequest : PackRequest := ⟨"Trip", ["a"], false, none⟩

def tripFile (extension : String) (key : String) : Option PackFile := some ⟨key, some extension, "plain", 5⟩

def tripPack (extension : String) : OfflinePack :=
  ⟨"Trip", false, none, 0, 0, .paused, none, false, none, [⟨⟨"a", some extension, "plain", 5⟩, .pending, 0, none⟩]⟩

/-- A new pack with one file. -/
def newPack (extension : String) : PackState where
  record := some (tripPack extension)
  files := fun _ => none
  clock := 0
  jobs := none
  runs := 0
  flags := []
  threads := []
  cancelled := []
  log := []

theorem newPack_starts (extension : String) : (newPack extension).Starts := by
  refine ⟨⟨_, rfl, tripFile extension, tripRequest, 0, ?_⟩, rfl, rfl, rfl, rfl⟩
  rfl

/-- The user starts the pack, and the run chooses the file. -/
def startTrip : List PackEvent :=
  .begin (.act .start none) :: List.replicate 7 (.advance 0 .done)

def online : PackReply := .network ⟨true, true, true⟩

/-- The run downloads the file that it chose, up to the record of its end. -/
def downloadTrip : List PackEvent :=
  [.advance 0 online, .advance 0 (.space (1024 * 1024 * 1024)), .advance 0 .done, .advance 0 .renamed] ++
    List.replicate 6 (.advance 0 .done)

/-- The user cancels the file behind the choice. -/
def cancelBehindChoice : List PackEvent :=
  startTrip ++ [.begin (.act .cancelFile (some "a")), .advance 0 .done, .advance 0 .done] ++ downloadTrip

/-- The copy is swept away with the partial files, and maintenance comes before the job ends. -/
def maintainBehindFinish : List PackEvent :=
  startTrip ++ downloadTrip ++ List.replicate 3 (.advance 0 .done) ++ [.begin .list, .advance 0 .done]

/-- A cancelled file becomes ready, and a ready pack lacks a file. -/
theorem pack_claims_what_is_not_there :
    (Exists fun state => (packMachine id).Reachable (newPack "jpg") state ∧
      Exists fun pack => state.record = some pack ∧ 0 ∈ state.cancelled ∧ pack.statusAt 0 = some .ready) ∧
    Exists fun state => (packMachine id).Reachable (newPack "part") state ∧
      Exists fun pack => state.record = some pack ∧ pack.status = .ready ∧ pack.statusAt 0 = some .pending := by
  constructor
  · exact (Machine.exists_run (by decide +kernel)).imp fun state found =>
      ⟨⟨cancelBehindChoice, found.1⟩, found.2⟩
  · exact (Machine.exists_run (by decide +kernel)).imp fun state found =>
      ⟨⟨maintainBehindFinish, found.1⟩, found.2⟩

/-- In every careful run there is at most one run of the pack, and a stale one changes
nothing.  An item becomes ready only with its file, a ready pack has only ready items, and
a cancelled item is not ready before it is retried.  The paths that are returned are those of
complete files, and the bytes that are required are those of the items still to come. -/
theorem offline_packs_claim_what_is_there (sha256 : String -> String) {initial state : PackState}
    {events : List PackEvent} (starts : initial.Starts)
    (run : (packMachine sha256).Run (fun state event => careful sha256 state event = true) initial events state) :
    PackHonest state ∧
      (forall event next, careful sha256 state event = true -> (packMachine sha256).step state event = some next ->
        StepHonest sha256 state event next) ∧
      forall pack, state.record = some pack ->
        pack.requiredBytes = if pack.needed < 2 ^ 64 then .ok pack.needed else .error "PACK_TOO_LARGE" := by
  have sound := pack_run_sound starts run
  refine ⟨sound.honest_state, ?_, fun pack _ => pack.requiredBytes_eq⟩
  intro event next legal moved
  exact step_honest sound legal moved

/-- The pack is downloaded to its end, and its file is verified. -/
def travel : List PackEvent :=
  startTrip ++ downloadTrip ++ List.replicate 5 (.advance 0 .done) ++
    [.begin (.verify "a"), .advance 0 .done, .advance 0 .done, .advance 0 .done]

theorem downloaded_pack_is_honest :
    Exists fun state => (newPack "jpg").Starts ∧
      (packMachine id).Run (fun state event => careful id state event = true) (newPack "jpg") travel state ∧
      PackHonest state ∧ (state.record.any fun pack => pack.status == .ready) = true ∧
      state.files "a.jpg" = some 5 ∧ state.log.length = 3 := by
  exact (Machine.exists_guarded_run (by decide +kernel)).imp fun state found =>
    ⟨newPack_starts "jpg", found.1, (offline_packs_claim_what_is_there id (newPack_starts "jpg") found.1).1, found.2⟩

end Workspace
end TelegramDrive
