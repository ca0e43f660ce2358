import TelegramDrive.ApiCatalog.Folders

namespace TelegramDrive
namespace ApiCatalog

/-!
# What a folder list may be served for

A list is served to the session it was discovered for, in every run.  Whether it shows
the folder changes answered before depends on the schedule, at two places: a list read
before a change may still be kept when the change is answered, and a discovery begun
before it may keep its list afterwards.  These are the only two.
-/

open Workspace (AccountGuard Session)

variable {state next : State}

/-! ## The properties -/

/-- A call that began after a change of its session was answered returns a list whose walk
began after the change. -/
def ReadsOwnWrites (state : State) : Prop :=
  forall call list, call ∈ state.calls -> call.phase = .returned list ->
    forall request effect answered, request ∈ state.requests ->
      request.stage = .answered effect answered -> request.guard.sameSession call.guard = true ->
      answered < call.startedAt -> effect < list.begun

/-- What a call returns was discovered for its session, among the dialogs of its account. -/
def ServesOneSession (state : State) : Prop :=
  forall call list, call ∈ state.calls -> call.phase = .returned list ->
    list.scope.sameSession call.guard = true ∧ list.reader = call.guard.owner

/-! ## The two races -/

/-- No list of the session that was read before the change is still kept. -/
def keptInTime (state : State) (guard : AccountGuard) (effect : Nat) : Bool :=
  (state.catalog guard.owner).all fun cached =>
    decide (cached.expires ≤ state.now) || !guard.sameSession cached.value.scope ||
      decide (effect < cached.value.begun)

/-- The walk began after every change of the session that is already answered. -/
def walkedInTime (state : State) (list : Discovered) : Bool :=
  state.requests.all fun request =>
    match request.stage with
    | .answered effect _ => !request.guard.sameSession list.scope || decide (effect < list.begun)
    | _ => true

/-- A step loses neither race: a successful answer finds no older list kept, and a
discovery keeps no list older than a change already answered. -/
def timely (state : State) : Event -> Bool
  | .advance index .go =>
    match state.requests[index]? with
    | some ⟨_, guard, _, .answering effect⟩ =>
      !(guard.validate state.session).isOk || keptInTime state guard effect
    | _ => true
  | .call index .go =>
    match state.calls[index]? with
    | some ⟨_, _, .inserting list⟩ => walkedInTime state list
    | _ => true
  | _ => true

/-! ## What one step of a call does -/

/-- What is known of a call from its phase. -/
def Phase.Owned (guard : AccountGuard) (startedAt : Nat) : Phase -> Prop
  | .discovering reader | .opened reader => reader = guard.owner
  | .walking reader begun _ | .enriching reader begun _ | .caching reader begun _ |
      .extending reader begun _ | .listed reader begun _ => reader = guard.owner ∧ startedAt < begun
  | .inserting list => list.scope = guard ∧ list.reader = guard.owner ∧ startedAt < list.begun
  | .returned list => list.scope = guard ∧ list.reader = guard.owner
  | _ => True

/-- Every kept list stands under its own account. -/
def Catalog.Owned (catalog : Catalog) : Prop :=
  forall owner cached, catalog owner = some cached ->
    cached.value.scope.owner = owner ∧ cached.value.reader = owner

/-- Nothing is kept that was not kept before. -/
def Catalog.Within (catalog before : Catalog) : Prop :=
  forall owner cached, catalog owner = some cached -> before owner = some cached

theorem Catalog.Within.refl (catalog : Catalog) : catalog.Within catalog := fun _ _ kept => kept

variable {catalog : Catalog}

theorem Catalog.Within.owned {before : Catalog} (within : catalog.Within before)
    (owned : before.Owned) : catalog.Owned :=
  fun owner cached kept => owned owner cached (within owner cached kept)

theorem Catalog.invalidateCached_within (catalog : Catalog) (owner : Int) :
    (catalog.invalidateCached owner).Within catalog := by
  intro account cached kept
  unfold Catalog.invalidateCached at kept
  split at kept
  · cases kept
  · exact kept

theorem Catalog.retain_within (catalog : Catalog) (now : Nat) : (catalog.retain now).Within catalog := by
  intro account cached kept
  exact (Option.filter_eq_some_iff.mp kept).1

variable {guard : AccountGuard} {list : Discovered}

/-- What a lookup finds is kept, unexpired and of the same session. -/
theorem Catalog.cachedFolders_retain {now : Nat}
    (found : (catalog.retain now).cachedFolders guard = some list) :
    Exists fun cached => catalog guard.owner = some cached ∧ cached.value = list ∧ now < cached.expires ∧
      list.scope = guard := by
  unfold Catalog.cachedFolders at found
  rw [Option.map_eq_some_iff] at found
  rcases found with ⟨cached, kept, same⟩
  rw [Option.filter_eq_some_iff] at kept
  rcases kept with ⟨retained, session⟩
  unfold Catalog.retain at retained
  rw [Option.filter_eq_some_iff] at retained
  refine ⟨cached, retained.1, same, of_decide_eq_true retained.2, ?_⟩
  rw [← same]
  exact AccountGuard.sameSession_iff.mp session

theorem guarded_cases (state : State) (guard : AccountGuard) (phase : Phase) :
    state.guarded guard phase = phase ∨ Exists fun error => state.guarded guard phase = .failed error := by
  unfold State.guarded
  cases guard.validate state.session with
  | ok => exact Or.inl rfl
  | error error => exact Or.inr ⟨_, rfl⟩

theorem guarded_owned {startedAt : Nat} {phase : Phase}
    (owned : phase.Owned guard startedAt) : (state.guarded guard phase).Owned guard startedAt := by
  rcases guarded_cases state guard phase with same | ⟨error, same⟩
  · rw [same]
    exact owned
  · rw [same]
    trivial

theorem guarded_returned {phase : Phase}
    (returned : state.guarded guard phase = .returned list) : phase = .returned list := by
  rcases guarded_cases state guard phase with same | ⟨error, same⟩
  · exact same.symm.trans returned
  · cases same.symm.trans returned

/-- The steps of a call: some end the walk or look up the kept list, one keeps a list. -/
inductive Called (state : State) (guard : AccountGuard) : Phase -> Catalog -> Phase -> Prop
  | goes {phase after : Phase} (owned : forall startedAt, startedAt < state.clock ->
      phase.Owned guard startedAt -> after.Owned guard startedAt)
      (unfinished : forall list, after ≠ .returned list) : Called state guard phase state.catalog after
  | misses (absent : (state.catalog.retain state.now).cachedFolders guard = none) :
      Called state guard .looking (state.catalog.retain state.now) .connecting
  | hits {list : Discovered} (found : (state.catalog.retain state.now).cachedFolders guard = some list) :
      Called state guard .looking (state.catalog.retain state.now) (.returned list)
  | keeps (list : Discovered) :
      Called state guard (.inserting list) (state.catalog.insert list state.now) (.returned list)

theorem Called.guarded {phase after : Phase}
    (owned : forall startedAt, startedAt < state.clock -> phase.Owned guard startedAt ->
      after.Owned guard startedAt)
    (unfinished : forall list, after ≠ .returned list) :
    Called state guard phase state.catalog (state.guarded guard after) :=
  .goes (fun startedAt earlier before => guarded_owned (owned startedAt earlier before))
    (fun list returned => unfinished list (guarded_returned returned))

theorem called {phase after : Phase} {reply : Reply}
    (stepped : state.step guard phase reply = some (catalog, after)) :
    Called state guard phase catalog after := by
  cases phase with
  | entered =>
    cases reply <;> cases stepped
    exact .guarded (fun _ _ _ => trivial) (by simp)
  | looking =>
    cases reply with
    | go =>
      simp only [State.step] at stepped
      split at stepped
      next found =>
        cases stepped
        exact .hits found
      next absent =>
        cases stepped
        exact .misses absent
    | _ => cases stepped
  | connecting =>
    cases reply <;> cases stepped
    · exact .guarded (fun _ _ _ => trivial) (by simp)
    · exact .goes (fun _ _ _ => trivial) (by simp)
  | identifying =>
    cases reply with
    | error text =>
      cases stepped
      exact .goes (fun _ _ _ => trivial) (by simp)
    | user id =>
      simp only [State.step] at stepped
      split at stepped
      next verified =>
        cases stepped
        refine .goes (fun _ _ _ => ?_) (by simp)
        unfold AccountGuard.validateClientOwner at verified
        split at verified
        · cases verified
        next same => exact not_not.mp same
      · cases stepped
        exact .goes (fun _ _ _ => trivial) (by simp)
    | _ => cases stepped
  | discovering reader | caching reader begun folders | extending reader begun folders =>
    cases reply <;> cases stepped
    exact .guarded (fun _ _ owned => owned) (by simp)
  | opened reader =>
    cases reply with
    | error text =>
      cases stepped
      exact .goes (fun _ _ _ => trivial) (by simp)
    | page dialogs last =>
      simp only [State.step] at stepped
      split at stepped
      · cases stepped
        cases last with
        | true | false => exact .goes (fun _ earlier owned => ⟨owned, earlier⟩) (by simp)
      · cases stepped
    | _ => cases stepped
  | walking reader begun before =>
    cases reply with
    | error text =>
      cases stepped
      exact .goes (fun _ _ _ => trivial) (by simp)
    | page dialogs last =>
      simp only [State.step] at stepped
      split at stepped
      · cases stepped
        cases last with
        | true | false => exact .goes (fun _ _ owned => owned) (by simp)
      · cases stepped
    | _ => cases stepped
  | enriching reader begun dialogs =>
    cases reply <;> cases stepped
    · exact .guarded (fun _ _ owned => owned) (by simp)
    · exact .goes (fun _ _ _ => trivial) (by simp)
  | listed reader begun folders =>
    cases reply <;> cases stepped
    exact .guarded (fun _ _ owned => ⟨rfl, owned⟩) (by simp)
  | inserting list =>
    cases reply <;> cases stepped
    exact .keeps list
  | returned list | failed error => cases reply <;> cases stepped
/-! ## What one step of a request does -/

/-- What is known of a request from its stage. -/
def Stage.Dated (clock : Nat) : Stage -> Prop
  | .applied effect | .replied effect | .forgetting effect | .answering effect => effect < clock
  | .answered effect moment => effect < moment ∧ moment < clock
  | _ => True

variable {stage after : Stage}

theorem Stage.Dated.mono {clock later : Nat} (dated : stage.Dated clock)
    (passes : clock ≤ later) : stage.Dated later := by
  cases stage with
  | applied effect | replied effect | forgetting effect | answering effect =>
    exact Nat.lt_of_lt_of_le dated passes
  | answered effect moment => exact ⟨dated.1, Nat.lt_of_lt_of_le dated.2 passes⟩
  | _ => trivial

/-- The steps of a request: it answers in one place, from a valid session, and keeps no
list anywhere. -/
inductive Served (state : State) (guard : AccountGuard) : Stage -> Outcome -> Catalog -> Stage -> Prop
  | goes {stage after : Stage} {outcome : Outcome} {catalog : Catalog} (within : catalog.Within state.catalog)
      (dated : stage.Dated state.clock -> after.Dated (state.clock + 1))
      (unfinished : forall effect answered, after ≠ .answered effect answered) :
      Served state guard stage outcome catalog after
  | answers (effect : Nat) (valid : guard.validate state.session = .ok ()) :
      Served state guard (.answering effect) .go state.catalog (.answered effect state.clock)

theorem permitted_cases (state : State) (guard : AccountGuard) (stage : Stage) :
    (state.permitted guard stage = stage ∧ guard.validate state.session = .ok ()) ∨
      state.permitted guard stage = .failed := by
  unfold State.permitted
  cases guard.validate state.session with
  | ok => exact Or.inl ⟨rfl, rfl⟩
  | error error => exact Or.inr rfl

theorem Served.permitted {outcome : Outcome} (dated : after.Dated (state.clock + 1))
    (unfinished : forall effect answered, after ≠ .answered effect answered) :
    Served state guard stage outcome state.catalog (state.permitted guard after) := by
  rcases permitted_cases state guard after with ⟨same, -⟩ | same
  · rw [same]
    exact .goes (.refl _) (fun _ => dated) unfinished
  · rw [same]
    exact .goes (.refl _) (fun _ => trivial) (by simp)

theorem served {request : Request} {outcome : Outcome} {dialogs : List Channel}
    (stepped : state.serve request stage outcome = some (dialogs, catalog, after)) :
    Served state request.guard stage outcome catalog after := by
  cases stage with
  | opened =>
    cases outcome with
    | go =>
      simp only [State.serve] at stepped
      split at stepped
      · cases stepped
        exact .permitted trivial (by simp)
      · cases stepped
        exact .goes (.refl _) (fun _ => trivial) (by simp)
    | fresh id => cases stepped
    | fail =>
      cases stepped
      exact .goes (.refl _) (fun _ => trivial) (by simp)
  | noted =>
    cases outcome <;> cases stepped
    exact .goes (state.catalog.invalidateCached_within _) (fun _ => trivial) (by simp)
  | invalidated =>
    cases outcome with
    | go =>
      simp only [State.serve] at stepped
      split at stepped
      · cases stepped
        exact .permitted trivial (by simp)
      · cases stepped
        exact .goes (.refl _) (fun _ => trivial) (by simp)
    | _ => cases stepped
  | invoking =>
    cases outcome <;> cases stepped
    · exact .goes (.refl _) (fun _ => Nat.lt_succ_self _) (by simp)
    · exact .goes (.refl _) (fun _ => trivial) (by simp)
  | applied effect =>
    cases outcome with
    | go =>
      simp only [State.serve] at stepped
      split at stepped
      · cases stepped
        exact .goes (.refl _) (fun dated => Nat.lt_succ_of_lt dated) (by simp)
      · cases stepped
        exact .goes (.refl _) (fun dated => Nat.lt_succ_of_lt dated) (by simp)
    | fresh id => cases stepped
    | fail =>
      cases stepped
      exact .goes (.refl _) (fun _ => trivial) (by simp)
  | replied effect =>
    cases outcome with
    | go =>
      simp only [State.serve] at stepped
      split at stepped
      · cases stepped
        exact .goes (.refl _) (fun dated => Nat.lt_succ_of_lt dated) (by simp)
      · cases stepped
        exact .goes (.refl _) (fun dated => Nat.lt_succ_of_lt dated) (by simp)
    | _ => cases stepped
  | forgetting effect =>
    cases outcome <;> cases stepped
    exact .goes (state.catalog.invalidateCached_within _) (fun dated => Nat.lt_succ_of_lt dated) (by simp)
  | answering effect =>
    cases outcome <;> cases stepped
    rcases permitted_cases state request.guard (.answered effect state.clock) with ⟨same, valid⟩ | same
    · rw [same]
      exact .answers effect valid
    · rw [same]
      exact .goes (.refl _) (fun _ => trivial) (by simp)
  | answered effect answered | failed => cases outcome <;> cases stepped

/-! ## What one step of the system does -/

/-- The steps of the system, by the calls, the requests and the kept lists they touch. -/
inductive Moves (state : State) : Event -> State -> Prop
  | aside {event : Event} {next : State} (now : state.now ≤ next.now) (clock : next.clock = state.clock + 1)
      (calls : next.calls = state.calls) (requests : next.requests = state.requests)
      (within : next.catalog.Within state.catalog) : Moves state event next
  | begins (guard : AccountGuard) :
      Moves state (.folders guard)
        { state with clock := state.clock + 1, calls := state.calls ++ [⟨guard, state.clock, .entered⟩] }
  | calls (index : Nat) (reply : Reply) (call : Call) (catalog : Catalog) (phase : Phase)
      (there : state.calls[index]? = some call)
      (stepped : state.step call.guard call.phase reply = some (catalog, phase)) :
      Moves state (.call index reply)
        { state with
          clock := state.clock + 1
          catalog := catalog
          calls := state.calls.set index { call with phase := phase } }
  | arrives (surface : Surface) (guard : AccountGuard) (change : Change) :
      Moves state (.request surface guard change)
        { state with
          clock := state.clock + 1
          requests := state.requests ++ [⟨surface, guard, change, .opened⟩] }
  | serves (index : Nat) (outcome : Outcome) (request : Request) (dialogs : List Channel) (catalog : Catalog)
      (stage : Stage) (remote : Int -> List Channel) (there : state.requests[index]? = some request)
      (stepped : state.serve request request.stage outcome = some (dialogs, catalog, stage)) :
      Moves state (.advance index outcome)
        { state with
          clock := state.clock + 1
          remote := remote
          catalog := catalog
          requests := state.requests.set index { request with stage := stage } }

theorem moves {event : Event} (moved : catalogMachine.step state event = some next) :
    Moves state event next := by
  simp only [catalogMachine, Option.map_eq_some_iff] at moved
  rcases moved with ⟨after, acted, same⟩
  cases same
  cases event with
  | tick seconds =>
    cases acted
    exact .aside (Nat.le_add_right _ _) rfl rfl rfl (.refl _)
  | suspend | owner root answer | elsewhere account dialogs | arrange layout =>
    cases acted
    exact .aside (Nat.le_refl _) rfl rfl rfl (.refl _)
  | invalidate account =>
    cases acted
    exact .aside (Nat.le_refl _) rfl rfl rfl (state.catalog.invalidateCached_within account)
  | folders guard =>
    cases acted
    exact .begins guard
  | call index reply =>
    simp only [State.act, Option.bind_eq_some_iff, Option.map_eq_some_iff] at acted
    rcases acted with ⟨call, there, ⟨catalog, phase⟩, stepped, same⟩
    cases same
    exact .calls index reply call catalog phase there stepped
  | request surface guard change =>
    simp only [State.act] at acted
    split at acted
    · cases acted
      exact .arrives surface guard change
    · cases acted
  | advance index outcome =>
    simp only [State.act, Option.bind_eq_some_iff, Option.map_eq_some_iff] at acted
    rcases acted with ⟨request, there, ⟨dialogs, catalog, stage⟩, stepped, same⟩
    cases same
    exact .serves index outcome request dialogs catalog stage _ there stepped
/-! ## Dates and owners -/

/-- Calls and requests are dated in the past, and every list is the one of its account. -/
structure Owned (state : State) : Prop where
  calls : forall call, call ∈ state.calls ->
    call.startedAt < state.clock ∧ call.phase.Owned call.guard call.startedAt
  requests : forall request, request ∈ state.requests -> request.stage.Dated state.clock
  kept : state.catalog.Owned

theorem Owned.initially (session : Session) (remote : Int -> List Channel) :
    Owned (State.initial session remote) where
  calls _ member := nomatch member
  requests _ member := nomatch member
  kept _ _ kept := nomatch kept

theorem Called.owned {phase after : Phase} {startedAt : Nat}
    (called : Called state guard phase catalog after) (kept : state.catalog.Owned)
    (earlier : startedAt < state.clock) (before : phase.Owned guard startedAt) :
    catalog.Owned ∧ after.Owned guard startedAt := by
  cases called with
  | goes owned unfinished => exact ⟨kept, owned startedAt earlier before⟩
  | misses absent => exact ⟨(state.catalog.retain_within state.now).owned kept, trivial⟩
  | @hits list found =>
    rcases Catalog.cachedFolders_retain found with ⟨cached, there, same, -, session⟩
    rcases kept guard.owner cached there with ⟨-, reader⟩
    exact ⟨(state.catalog.retain_within state.now).owned kept, session, same ▸ reader⟩
  | keeps list =>
    rcases before with ⟨scope, reader, -⟩
    refine ⟨?_, scope, reader⟩
    intro owner cached found
    unfold Catalog.insert at found
    split at found
    next same =>
      cases found
      exact ⟨same.symm, by rw [reader, same, scope]⟩
    · exact kept owner cached found

theorem Served.within {outcome : Outcome}
    (served : Served state guard stage outcome catalog after) : catalog.Within state.catalog := by
  cases served with
  | goes within dated unfinished => exact within
  | answers effect valid => exact .refl _

theorem Served.dated {outcome : Outcome}
    (served : Served state guard stage outcome catalog after) (before : stage.Dated state.clock) :
    after.Dated (state.clock + 1) := by
  cases served with
  | goes within dated unfinished => exact dated before
  | answers effect valid => exact ⟨before, Nat.lt_succ_self _⟩

theorem Owned.step {event : Event} (owned : Owned state) (moved : Moves state event next) : Owned next := by
  have later : forall call, call ∈ state.calls ->
      call.startedAt < state.clock + 1 ∧ call.phase.Owned call.guard call.startedAt :=
    fun call member => ⟨Nat.lt_succ_of_lt (owned.calls call member).1, (owned.calls call member).2⟩
  have dated : forall request, request ∈ state.requests -> request.stage.Dated (state.clock + 1) :=
    fun request member => (owned.requests request member).mono (Nat.le_succ _)
  cases moved with
  | aside now clock calls requests within =>
    constructor
    · rw [calls, clock]
      exact later
    · rw [requests, clock]
      exact dated
    · exact within.owned owned.kept
  | begins guard =>
    refine ⟨?_, dated, owned.kept⟩
    intro call member
    rcases List.mem_append.mp member with old | new
    · exact later call old
    · cases List.mem_singleton.mp new
      exact ⟨Nat.lt_succ_self _, trivial⟩
  | calls index reply call catalog phase there stepped =>
    have member := List.mem_of_getElem? there
    rcases (called stepped).owned owned.kept (owned.calls call member).1 (owned.calls call member).2 with
      ⟨kept, known⟩
    refine ⟨?_, dated, kept⟩
    intro other inside
    rcases List.mem_or_eq_of_mem_set inside with old | new
    · exact later other old
    · cases new
      exact ⟨(later call member).1, known⟩
  | arrives surface guard change =>
    refine ⟨later, ?_, owned.kept⟩
    intro request member
    rcases List.mem_append.mp member with old | new
    · exact dated request old
    · cases List.mem_singleton.mp new
      trivial
  | serves index outcome request dialogs catalog stage remote there stepped =>
    refine ⟨later, ?_, (served stepped).within.owned owned.kept⟩
    intro other inside
    rcases List.mem_or_eq_of_mem_set inside with old | new
    · exact dated other old
    · cases new
      exact (served stepped).dated (owned.requests request (List.mem_of_getElem? there))

theorem Owned.serves (owned : Owned state) : ServesOneSession state := by
  intro call list member returned
  have known := (owned.calls call member).2
  rw [returned] at known
  exact ⟨AccountGuard.sameSession_iff.mpr known.1, known.2⟩

/-! ## Freshness -/

/-- A list shows every change of its session that is answered. -/
def After (requests : List Request) (list : Discovered) : Prop :=
  forall request effect answered, request ∈ requests -> request.stage = .answered effect answered ->
    request.guard = list.scope -> effect < list.begun

theorem after_of_walkedInTime (inTime : walkedInTime state list = true) :
    After state.requests list := by
  intro request effect answered member done same
  have checked := List.all_eq_true.mp inTime request member
  rw [done] at checked
  rcases Bool.or_eq_true_iff.mp checked with other | sooner
  · rw [AccountGuard.sameSession_iff.mpr same] at other
    cases other
  · exact of_decide_eq_true sooner

theorem keptInTime_cases {effect : Nat} {cached : Cached}
    (inTime : keptInTime state guard effect = true) (kept : state.catalog guard.owner = some cached) :
    cached.expires ≤ state.now ∨ guard ≠ cached.value.scope ∨ effect < cached.value.begun := by
  unfold keptInTime at inTime
  rw [kept, Option.all_some] at inTime
  rcases Bool.or_eq_true_iff.mp inTime with early | sooner
  · rcases Bool.or_eq_true_iff.mp early with expired | other
    · exact Or.inl (of_decide_eq_true expired)
    · refine Or.inr (Or.inl ?_)
      intro same
      rw [AccountGuard.sameSession_iff.mpr same] at other
      cases other
  · exact Or.inr (Or.inr (of_decide_eq_true sooner))

/-- What is kept for longer shows every answered change, and so does what was returned to
the calls after it. -/
structure Fresh (state : State) : Prop where
  kept : forall owner cached, state.catalog owner = some cached ->
    cached.expires ≤ state.now ∨ After state.requests cached.value
  returned : ReadsOwnWrites state

/-- New results and new answers are all that can break it. -/
theorem ReadsOwnWrites.frame (reads : ReadsOwnWrites state)
    (calls : forall call list, call ∈ next.calls -> call.phase = .returned list -> call ∈ state.calls)
    (requests : forall request effect answered, request ∈ next.requests ->
      request.stage = .answered effect answered -> request ∈ state.requests) : ReadsOwnWrites next :=
  fun call list member returned request effect answered inside done =>
    reads call list (calls call list member returned) returned request effect answered
      (requests request effect answered inside done) done

theorem After.frame {before after : List Request} (shows : After before list)
    (requests : forall request effect answered, request ∈ after ->
      request.stage = .answered effect answered -> request ∈ before) : After after list :=
  fun request effect answered member done =>
    shows request effect answered (requests request effect answered member done) done

/-- A call that has not returned now is among the others. -/
theorem mem_of_returned {index : Nat} {calls : List Call} {call other : Call} {phase : Phase}
    (unfinished : forall list, phase ≠ .returned list)
    (inside : other ∈ calls.set index { call with phase := phase })
    (returned : other.phase = .returned list) : other ∈ calls := by
  rcases List.mem_or_eq_of_mem_set inside with old | new
  · exact old
  · cases new
    exact absurd returned (unfinished list)

theorem mem_of_answered {index : Nat} {requests : List Request} {request other : Request}
    {effect answered : Nat} (unfinished : forall effect answered, stage ≠ .answered effect answered)
    (inside : other ∈ requests.set index { request with stage := stage })
    (done : other.stage = .answered effect answered) : other ∈ requests := by
  rcases List.mem_or_eq_of_mem_set inside with old | new
  · exact old
  · cases new
    exact absurd done (unfinished effect answered)

/-- A result that shows every answered change joins the others. -/
theorem ReadsOwnWrites.returns (reads : ReadsOwnWrites state) {index : Nat} {call : Call}
    (shows : After state.requests list) (scope : list.scope = call.guard)
    (calls : next.calls = state.calls.set index { call with phase := .returned list })
    (requests : next.requests = state.requests) : ReadsOwnWrites next := by
  intro other result member returned request effect answered inside done same before
  rw [calls] at member
  rw [requests] at inside
  rcases List.mem_or_eq_of_mem_set member with old | new
  · exact reads other result old returned request effect answered inside done same before
  · cases new
    cases returned
    exact shows request effect answered inside done ((AccountGuard.sameSession_iff.mp same).trans scope.symm)
theorem timely_inserting {index : Nat} {call : Call}
    (there : state.calls[index]? = some call) (inserts : call.phase = .inserting list)
    (inTime : timely state (.call index .go) = true) : walkedInTime state list = true := by
  rcases call with ⟨guard, startedAt, phase⟩
  cases inserts
  simpa only [timely, there] using inTime

theorem timely_answering {index effect : Nat} {request : Request}
    (there : state.requests[index]? = some request) (answers : request.stage = .answering effect)
    (valid : request.guard.validate state.session = .ok ())
    (inTime : timely state (.advance index .go) = true) : keptInTime state request.guard effect = true := by
  rcases request with ⟨surface, guard, change, stage⟩
  cases answers
  simpa only [timely, there, valid, Except.isOk, Except.toBool, Bool.not_true, Bool.false_or] using inTime

theorem Fresh.step {event : Event} (fresh : Fresh state) (owned : Owned state)
    (inTime : timely state event = true) (moved : Moves state event next) : Fresh next := by
  cases moved with
  | aside now clock calls requests within =>
    constructor
    · intro owner cached kept
      rw [requests]
      rcases fresh.kept owner cached (within owner cached kept) with expired | shows
      · exact Or.inl (Nat.le_trans expired now)
      · exact Or.inr shows
    · exact fresh.returned.frame (fun _ _ member _ => calls ▸ member)
        (fun _ _ _ member _ => requests ▸ member)
  | begins guard =>
    refine ⟨fresh.kept, fresh.returned.frame ?_ (fun _ _ _ member _ => member)⟩
    intro call list member returned
    rcases List.mem_append.mp member with old | new
    · exact old
    · cases List.mem_singleton.mp new
      cases returned
  | calls index reply call catalog phase there stepped =>
    have known := owned.calls call (List.mem_of_getElem? there)
    have did := called stepped
    generalize before : call.phase = start at did
    cases did with
    | goes owns unfinished =>
      exact ⟨fresh.kept, fresh.returned.frame (fun _ _ => mem_of_returned unfinished)
        (fun _ _ _ member _ => member)⟩
    | misses absent =>
      refine ⟨?_, fresh.returned.frame (fun _ _ => mem_of_returned (by simp))
        (fun _ _ _ member _ => member)⟩
      intro owner cached kept
      exact fresh.kept owner cached (state.catalog.retain_within state.now owner cached kept)
    | @hits list found =>
      rcases Catalog.cachedFolders_retain found with ⟨cached, there, same, unexpired, scope⟩
      have shows : After state.requests list := by
        rcases fresh.kept call.guard.owner cached there with expired | shows
        · exact absurd unexpired (Nat.not_lt_of_le expired)
        · exact same ▸ shows
      refine ⟨?_, fresh.returned.returns shows scope rfl rfl⟩
      intro owner cached kept
      exact fresh.kept owner cached (state.catalog.retain_within state.now owner cached kept)
    | keeps list =>
      have inserts : reply = .go := by
        rw [before] at stepped
        cases reply <;> cases stepped
        rfl
      have shows : After state.requests list := by
        apply after_of_walkedInTime
        rw [inserts] at inTime
        exact timely_inserting there before inTime
      rw [before] at known
      refine ⟨?_, fresh.returned.returns shows known.2.1 rfl rfl⟩
      intro owner cached kept
      dsimp only [Catalog.insert] at kept
      split at kept
      · cases kept
        exact Or.inr shows
      · exact fresh.kept owner cached kept
  | arrives surface guard change =>
    have same : forall request effect answered,
        request ∈ state.requests ++ [⟨surface, guard, change, .opened⟩] ->
          request.stage = .answered effect answered -> request ∈ state.requests := by
      intro request effect answered member done
      rcases List.mem_append.mp member with old | new
      · exact old
      · cases List.mem_singleton.mp new
        cases done
    refine ⟨?_, fresh.returned.frame (fun _ _ member _ => member) same⟩
    intro owner cached kept
    exact (fresh.kept owner cached kept).imp_right fun shows => shows.frame same
  | serves index outcome request dialogs catalog stage remote there stepped =>
    have did := served stepped
    generalize before : request.stage = start at did
    cases did with
    | goes within dated unfinished =>
      refine ⟨?_, fresh.returned.frame (fun _ _ member _ => member)
        (fun _ _ _ => mem_of_answered unfinished)⟩
      intro owner cached kept
      exact (fresh.kept owner cached (within owner cached kept)).imp_right fun shows =>
        shows.frame fun _ _ _ => mem_of_answered unfinished
    | answers effect valid =>
      have keeps := timely_answering there before valid inTime
      constructor
      · intro owner cached kept
        rcases fresh.kept owner cached kept with expired | shows
        · exact Or.inl expired
        rcases Nat.lt_or_ge state.now cached.expires with unexpired | expired
        · refine Or.inr ?_
          intro other moment answered inside done same
          rcases List.mem_or_eq_of_mem_set inside with old | new
          · exact shows other moment answered old done same
          · cases new
            cases done
            have scope : cached.value.scope.owner = owner := (owned.kept owner cached kept).1
            have under : state.catalog request.guard.owner = some cached := by
              rw [show request.guard.owner = owner from (congrArg AccountGuard.owner same).trans scope]
              exact kept
            rcases keptInTime_cases keeps under with expired | other | sooner
            · exact absurd unexpired (Nat.not_lt_of_le expired)
            · exact absurd same other
            · exact sooner
        · exact Or.inl expired
      · intro call list member returned other moment answered inside done same before
        rcases List.mem_or_eq_of_mem_set inside with old | new
        · exact fresh.returned call list member returned other moment answered old done same before
        · cases new
          cases done
          exact absurd before (Nat.lt_asymm (owned.calls call member).1)

/-! ## Whole runs -/

theorem run_owned {permitted : State -> Event -> Prop} {session : Session} {remote : Int -> List Channel}
    {events : List Event} (run : catalogMachine.Run permitted (State.initial session remote) events state) :
    Owned state :=
  run.invariant Owned (fun _ _ _ _ owned moved => owned.step (moves moved)) (.initially session remote)

theorem run_fresh {session : Session} {remote : Int -> List Channel} {events : List Event}
    (run : catalogMachine.Run (fun state event => timely state event = true)
      (State.initial session remote) events state) : Owned state ∧ Fresh state := by
  refine run.invariant (fun state => Owned state ∧ Fresh state) ?_ ⟨.initially session remote, ?_⟩
  · intro state event next inTime both moved
    exact ⟨both.1.step (moves moved), both.2.step both.1 inTime (moves moved)⟩
  · constructor
    · intro owner cached kept
      cases kept
    · intro call list member
      cases member
/-! ## A lost race shows -/

/-- A state after some steps that only touched a call which joined it. -/
def State.joined (state : State) (call : Call) (later : Nat) : State :=
  { state with clock := state.clock + later, calls := state.calls ++ [call] }

theorem joined_step (call : Call) (later : Nat) {reply : Reply} {phase : Phase}
    (stepped : (state.joined call later).step call.guard call.phase reply = some (catalog, phase)) :
    catalogMachine.step (state.joined call later) (.call state.calls.length reply) =
      some ({ state with catalog := catalog }.joined { call with phase := phase } (later + 1)) := by
  have there : (state.joined call later).calls[state.calls.length]? = some call :=
    List.getElem?_concat_length
  simp only [catalogMachine, State.act, there, Option.bind_some, stepped, Option.map_some]
  simp only [State.joined, List.set_append_right _ _ (Nat.le_refl _), Nat.sub_self, List.set_cons_zero,
    Nat.add_assoc]

theorem returns_kept {cached : Cached}
    (valid : guard.validate state.session = .ok ()) (kept : state.catalog guard.owner = some cached)
    (scope : cached.value.scope = guard) (unexpired : state.now < cached.expires) :
    Exists fun events => Exists fun final => catalogMachine.Run Machine.anything state events final ∧
      ⟨guard, state.clock, .returned cached.value⟩ ∈ final.calls ∧ final.requests = state.requests := by
  have found : (state.catalog.retain state.now).cachedFolders guard = some cached.value := by
    have same : cached.value.scope.sameSession guard = true := AccountGuard.sameSession_iff.mpr scope
    simp only [Catalog.cachedFolders, Catalog.retain, kept, Option.filter_some, decide_eq_true unexpired,
      if_true, same, Option.map_some]
  have entered : state.guarded guard .looking = .looking := by
    unfold State.guarded
    rw [valid]
  have first : catalogMachine.step state (.folders guard) =
      some (state.joined ⟨guard, state.clock, .entered⟩ 1) := rfl
  have second := joined_step ⟨guard, state.clock, .entered⟩ 1
    (show (state.joined ⟨guard, state.clock, .entered⟩ 1).step guard .entered .go =
      some (state.catalog, state.guarded guard .looking) from rfl)
  have third := joined_step ⟨guard, state.clock, .looking⟩ 2
    (show (state.joined ⟨guard, state.clock, .looking⟩ 2).step guard .looking .go =
      some (state.catalog.retain state.now, .returned cached.value) by
        simp only [State.step, State.joined, found])
  rw [entered] at second
  refine ⟨_, _, .take trivial first (.take trivial second (.take trivial third (.stop _))), ?_, rfl⟩
  exact List.mem_append_right _ (List.mem_singleton_self _)

/-- So a kept list older than an answered change of its session is returned after it. -/
theorem stale_is_returned {cached : Cached} {request : Request} {effect answered : Nat}
    (valid : cached.value.scope.validate state.session = .ok ())
    (kept : state.catalog cached.value.scope.owner = some cached) (unexpired : state.now < cached.expires)
    (member : request ∈ state.requests) (done : request.stage = .answered effect answered)
    (session : request.guard = cached.value.scope) (before : answered < state.clock)
    (older : cached.value.begun ≤ effect) :
    Exists fun events => Exists fun final => catalogMachine.Run Machine.anything state events final ∧
      ¬ ReadsOwnWrites final := by
  rcases returns_kept valid kept rfl unexpired with ⟨events, final, run, returned, requests⟩
  refine ⟨events, final, run, ?_⟩
  intro reads
  have sooner := reads _ cached.value returned rfl request effect answered (requests ▸ member) done
    (AccountGuard.sameSession_iff.mpr session) before
  exact absurd sooner (Nat.not_lt_of_le older)

/-- What a step that is not timely is about to do. -/
theorem timely_eq_false {event : Event} (late : timely state event = false) :
    (Exists fun index => Exists fun request => Exists fun effect => event = .advance index .go ∧
      state.requests[index]? = some request ∧ request.stage = .answering effect ∧
      request.guard.validate state.session = .ok () ∧ keptInTime state request.guard effect = false) ∨
    (Exists fun index => Exists fun call => Exists fun list => event = .call index .go ∧
      state.calls[index]? = some call ∧ call.phase = .inserting list ∧ walkedInTime state list = false) := by
  unfold timely at late
  split at late
  next index =>
    split at late
    next surface guard change effect there =>
      rcases Bool.or_eq_false_iff.mp late with ⟨valid, kept⟩
      refine Or.inl ⟨index, _, effect, rfl, there, rfl, ?_, kept⟩
      dsimp only
      cases answer : guard.validate state.session with
      | ok => rfl
      | error error =>
        rw [answer] at valid
        cases valid
    · cases late
  next index =>
    split at late
    next guard startedAt list there => exact Or.inr ⟨index, _, list, rfl, there, rfl, late⟩
    · cases late
  · cases late

/-- Every lost race can show: the list it leaves is returned to the next call. -/
theorem untimely_shows {event : Event} (owned : Owned state)
    (moved : catalogMachine.step state event = some next) (late : timely state event = false)
    (valid : forall index reply call, event = .call index reply -> state.calls[index]? = some call ->
      call.guard.validate state.session = .ok ()) :
    Exists fun events => Exists fun final => catalogMachine.Run Machine.anything next events final ∧
      ¬ ReadsOwnWrites final := by
  rcases timely_eq_false late with
    ⟨index, request, effect, same, there, stage, session, kept⟩ |
      ⟨index, call, list, same, there, phase, walked⟩
  · cases same
    unfold keptInTime at kept
    cases found : state.catalog request.guard.owner with
    | none =>
      rw [found] at kept
      cases kept
    | some cached =>
      rw [found, Option.all_some, Bool.or_eq_false_iff, Bool.or_eq_false_iff, Bool.not_eq_false'] at kept
      rcases kept with ⟨⟨unexpired, scope⟩, older⟩
      have under := AccountGuard.sameSession_iff.mp scope
      have answers : state.permitted request.guard (.answered effect state.clock) =
          .answered effect state.clock := by
        unfold State.permitted
        rw [session]
      simp only [catalogMachine, State.act, there, Option.bind_some, stage, State.serve, Option.map_some,
        answers, Option.some.injEq] at moved
      rw [under] at session found
      subst moved
      refine stale_is_returned session found (Nat.lt_of_not_le (of_decide_eq_false unexpired))
        (List.mem_set (List.getElem?_eq_some_iff.mp there).1 _) rfl under (Nat.lt_succ_self _)
        (Nat.le_of_not_lt (of_decide_eq_false older))
  · cases same
    have known := owned.calls call (List.mem_of_getElem? there)
    rw [phase] at known
    rcases List.all_eq_false.mp walked with ⟨request, member, missed⟩
    have session := valid index .go call rfl there
    simp only [catalogMachine, State.act, there, Option.bind_some, phase, State.step, Option.map_some,
      Option.some.injEq] at moved
    subst moved
    split at missed
    next effect answered done =>
      rw [Bool.not_eq_true, Bool.or_eq_false_iff, Bool.not_eq_false'] at missed
      have dated := owned.requests request member
      rw [done] at dated
      rw [← known.2.1] at session
      refine @stale_is_returned _ ⟨list, state.now + catalogTtl⟩ request effect answered session ?_
        (Nat.lt_add_of_pos_right (by decide)) member done (AccountGuard.sameSession_iff.mp missed.1)
        (Nat.lt_succ_of_lt dated.2) (Nat.le_of_not_lt (of_decide_eq_false missed.2))
      simp only [Catalog.insert, if_true]
    · exact absurd rfl missed

/-! ## The result -/

/-- A run that loses neither race reads its own writes, any run serves a list to no other
session, and a race lost while the session lasts leaves a list that shows it. -/
theorem folders_read_own_writes (session : Session) (remote : Int -> List Channel) :
    (forall events state,
      catalogMachine.Run (fun state event => timely state event = true) (State.initial session remote) events
        state -> ReadsOwnWrites state ∧ ServesOneSession state) ∧
    (forall state, catalogMachine.Reachable (State.initial session remote) state -> ServesOneSession state) ∧
    (forall state event next, catalogMachine.Reachable (State.initial session remote) state ->
      catalogMachine.step state event = some next -> timely state event = false ->
      (forall index reply call, event = .call index reply -> state.calls[index]? = some call ->
        call.guard.validate state.session = .ok ()) ->
      Exists fun events => Exists fun final => catalogMachine.Run Machine.anything next events final ∧
        ¬ ReadsOwnWrites final) := by
  refine ⟨?_, ?_, ?_⟩
  · intro events state run
    have kept := run_fresh run
    exact ⟨kept.2.returned, kept.1.serves⟩
  · rintro state ⟨events, run⟩
    exact (run_owned run).serves
  · rintro state event next ⟨events, run⟩ moved late valid
    exact untimely_shows (run_owned run) moved late valid

/-- The owner of the example runs below, signed in throughout, with no folder at first. -/
def exampleSession : Session := ⟨0, fun _ => .ok 7⟩

def exampleGuard : AccountGuard := ⟨"", 7, 0⟩

/-- A discovery that meets no difficulty and finds these dialogs. -/
def discovery (index : Nat) (dialogs : List Channel) : List Event :=
  [.call index .go, .call index .go, .call index .go, .call index (.user 7), .call index .go,
    .call index (.page dialogs true), .call index .go, .call index .go, .call index .go, .call index .go,
    .call index .go]

/-- A folder is created, and listed afterwards. -/
def createThenList : List Event :=
  [.request .rest exampleGuard (.create "A"), .advance 0 .go, .advance 0 .go, .advance 0 .go,
    .advance 0 (.fresh 5), .advance 0 .go, .advance 0 .go, .folders exampleGuard] ++
      discovery 0 [⟨5, "A [TD]"⟩]

theorem created_folder_is_listed :
    Exists fun state =>
      catalogMachine.Run (fun state event => timely state event = true)
        (State.initial exampleSession fun _ => []) createThenList state ∧
      ReadsOwnWrites state ∧ ServesOneSession state ∧
      state.calls.map Call.phase =
        [.returned ⟨[⟨none, "Saved Messages"⟩, ⟨some 5, "A"⟩], exampleGuard, 7, 13⟩] := by
  exact (Machine.exists_guarded_run (by decide +kernel)).imp fun state found =>
    have kept := (folders_read_own_writes exampleSession fun _ => []).1 _ _ found.1
    ⟨found.1, kept.1, kept.2, found.2⟩

/-- The REST route forgets the kept list, and a discovery fills it again before Telegram
creates the folder. -/
def listWhileCreating : List Event :=
  [.request .rest exampleGuard (.create "A"), .advance 0 .go, .advance 0 .go, .folders exampleGuard] ++
    discovery 0 [] ++
    [.advance 0 .go, .advance 0 (.fresh 5), .advance 0 .go, .advance 0 .go, .folders exampleGuard, .call 1 .go,
      .call 1 .go]

/-- The request is answered, and a call after it returns the list without the folder. -/
theorem created_folder_is_missing :
    Exists fun state =>
      catalogMachine.Run Machine.anything (State.initial exampleSession fun _ => []) listWhileCreating state ∧
      state.requests = [⟨.rest, exampleGuard, .create "A", .answered 16 18⟩] ∧
      ⟨exampleGuard, 19, .returned ⟨[⟨none, "Saved Messages"⟩], exampleGuard, 7, 9⟩⟩ ∈ state.calls ∧
      state.remote 7 = [⟨5, "A [TD]"⟩] ∧ ¬ ReadsOwnWrites state := by
  have replayed : (catalogMachine.replay (State.initial exampleSession fun _ => []) listWhileCreating).any
      (fun state => decide (state.requests = [⟨.rest, exampleGuard, .create "A", .answered 16 18⟩] ∧
        ⟨exampleGuard, 19, .returned ⟨[⟨none, "Saved Messages"⟩], exampleGuard, 7, 9⟩⟩ ∈ state.calls ∧
        state.remote 7 = [⟨5, "A [TD]"⟩])) = true := by
    decide +kernel
  refine (Machine.exists_run replayed).imp fun state ⟨run, requests, returned, remote⟩ =>
    ⟨run, requests, returned, remote, fun reads => ?_⟩
  have sooner := reads _ _ returned rfl ⟨.rest, exampleGuard, .create "A", .answered 16 18⟩ 16 18
    (by rw [requests]; exact List.mem_singleton_self _) rfl (by decide) (by decide)
  exact absurd sooner (by decide)

end ApiCatalog
end TelegramDrive
