import TelegramDrive.Workspace.Account

namespace TelegramDrive
namespace Workspace

/-!
# What sign-out ends

Sign-out raises a flag and advances a generation.  While the flag is up nobody is told
an owner; and a login lowers it only after the file names its account.  Connecting
lowers it too, without a look at the file, so the owner that is leaving can be read again
from a file that sign-out has yet to remove.  And a guard that is validated compares its
generation before the owner is read, but not after.
-/

variable {root : String} {state next : State}

/-! ## The property -/

/-- How a call may have ended: with an owner only while no sign-out waits for a login, and
with a guard or a login only of the generation it ended in. -/
def Call.Honest (call : Call) : Prop :=
  match call.phase with
  | .ended (.owner _) => call.departed = false
  | .ended (.opened guard) | .ended (.validated guard) =>
    call.departed = false ∧ guard.generation = call.generation
  | .ended (.completed capture) => capture.generation = call.generation
  | _ => True

/-- The account that the session file names. -/
def State.named (state : State) : Option Int := state.file.bind state.owner

/-- A connection does not lower the flag for an account that is leaving, and no sign-out
comes between the two looks at the generation of a guard that is validated. -/
def orderly (state : State) : Event -> Bool
  | .advance index _ =>
    match state.calls[index]? with
    | some ⟨.resuming, _, _⟩ => !state.departed || state.named.isNone
    | some ⟨.epoch (.validating guard), _, _⟩ =>
      decide (guard.generation = state.lifecycle.generation)
    | _ => true
  | _ => true

/-! ## The stores -/

/-- While a sign-out waits for a login, the flag is up or the file names nobody; the mutex
is held with the flag up; and a registered identity is that of its session's file. -/
structure Stores (state : State) : Prop where
  departed : state.departed = true -> state.lifecycle.signingOut = true ∨ state.named = none
  locked : state.locked.isSome = true -> state.lifecycle.signingOut = true
  registered : forall registered identity, state.registered = some registered ->
    registered.identity = some identity -> state.inode registered.session = identity

/-- The generation grows, and a sign-out advances it. -/
def Follows (state next : State) : Prop :=
  state.lifecycle.generation ≤ next.lifecycle.generation ∧
    (state.lifecycle.generation = next.lifecycle.generation -> next.departed = true -> state.departed = true)

theorem Follows.refl (state : State) : Follows state state := ⟨Nat.le_refl _, fun _ departed => departed⟩

theorem upgraded_eq_some {registered : RegisteredSession} (found : state.upgraded = some registered) :
    state.registered = some registered := (Option.filter_eq_some_iff.mp found).1

/-- A registered session whose file is at the path has that file open. -/
theorem Stores.sameFile (stores : Stores state) {registered : RegisteredSession}
    (found : state.registered = some registered) (same : state.sameFile registered = true) :
    state.file = some (state.inode registered.session) := by
  unfold State.sameFile at same
  rw [Bool.and_eq_true, decide_eq_true_eq] at same
  rcases Option.isSome_iff_exists.mp same.1 with ⟨identity, known⟩
  rw [same.2, known, stores.registered registered identity found known]

/-- Who is told an owner reads the one that the file names, with the flag down and in the
generation it had read. -/
theorem readOwner_ok (stores : Stores state) {loaded : Nat} {readable : Bool} {owner : Int}
    (read : state.readOwner loaded readable = .ok owner) :
    state.lifecycle.signingOut = false ∧ loaded = state.lifecycle.generation ∧ state.named = some owner := by
  unfold State.readOwner at read
  dsimp only at read
  split at read
  · cases read
  next peer found =>
    have named : state.named = peer := by
      split at found
      next registered upgraded =>
        split at found
        · cases found
        next same =>
          split at found
          · cases found
          · cases found
            rw [Bool.or_eq_true, not_or, Bool.not_eq_true', Bool.not_eq_false] at same
            unfold State.named
            rw [stores.sameFile (upgraded_eq_some upgraded) same.2]
            rfl
      · split at found
        · cases found
        next identity there =>
          split at found
          · cases found
            unfold State.named
            rw [there]
            rfl
          · cases found
    split at read
    · cases read
    next same =>
      rw [Bool.or_eq_true, not_or, Bool.not_eq_true, decide_eq_true_eq, not_not] at same
      split at read
      · cases read
        exact ⟨same.1, same.2, named⟩
      · cases read

theorem Stores.openSession (stores : Stores state) :
    Stores state.openSession.1 ∧ Follows state state.openSession.1 := by
  unfold State.openSession
  split
  · exact ⟨stores, .refl _⟩
  · refine ⟨⟨?_, stores.locked, ?_⟩, Nat.le_refl _, fun _ departed => departed⟩
    · intro departed
      refine (stores.departed departed).imp_right ?_
      intro named
      unfold State.named at named ⊢
      cases there : state.file with
      | none => simp
      | some identity =>
        rw [there, Option.bind_some] at named
        simpa [there] using named
    · intro registered identity found known
      cases found
      cases known
      exact if_pos rfl

theorem Stores.registerSession (stores : Stores state) {session : Nat} {readable : Bool}
    (registered : state.registerSession session readable = .ok next) : Stores next ∧ Follows state next := by
  unfold State.registerSession at registered
  split at registered
  · cases registered
  next entry found =>
    split at registered
    · cases registered
    split at registered
    · cases registered
      exact ⟨stores, .refl _⟩
    split at registered
    · cases registered
    · cases registered
      refine ⟨⟨stores.departed, stores.locked, ?_⟩, Nat.le_refl _, fun _ departed => departed⟩
      intro other identity same known
      cases same
      exact stores.registered entry identity found known

theorem Stores.completeVerified (stores : Stores state) {capture : AuthenticationSession} {peer : PeerInfo}
    (free : state.locked = none) (completed : state.completeVerified capture peer = .ok next) :
    Stores next ∧ Follows state next ∧ capture.generation = next.lifecycle.generation := by
  unfold State.completeVerified at completed
  split at completed
  · cases completed
  next valid =>
    split at completed
    · cases completed
    · cases completed
      refine ⟨⟨nofun, ?_, stores.registered⟩, ⟨Nat.le_refl _, nofun⟩, ?_⟩
      · intro held
        rw [free] at held
        cases held
      · rw [Bool.not_eq_true', Bool.not_eq_false] at valid
        rcases (Option.any_eq_true _ _).mp valid with ⟨entry, -, checks⟩
        simp only [Bool.and_eq_true, decide_eq_true_eq] at checks
        exact checks.1.1.2.symm

/-! ## What one step of a call does -/

/-- The generation a guard is being opened with is no newer than the current one. -/
def Purpose.Sound (generation : Nat) : Purpose -> Prop
  | .opening _ opened => opened ≤ generation
  | _ => True

/-- What is known of a call from its phase. -/
def Phase.Sound (generation : Nat) (departed : Bool) : Phase -> Prop
  | .flag purpose | .file purpose | .epoch purpose => purpose.Sound generation
  | .reading purpose loaded =>
    purpose.Sound generation ∧ forall guard, purpose = .validating guard -> loaded = guard.generation
  | .rechecking _ opened _ => opened ≤ generation ∧ (opened = generation -> departed = false)
  | _ => True

theorem Purpose.Sound.mono {purpose : Purpose} {generation later : Nat} (sound : purpose.Sound generation)
    (passes : generation ≤ later) : purpose.Sound later := by
  cases purpose with
  | opening expected opened => exact Nat.le_trans sound passes
  | _ => trivial

theorem Phase.Sound.follows {phase : Phase}
    (sound : phase.Sound state.lifecycle.generation state.departed) (follows : Follows state next) :
    phase.Sound next.lifecycle.generation next.departed := by
  cases phase with
  | flag purpose | file purpose | epoch purpose => exact Purpose.Sound.mono sound follows.1
  | reading purpose loaded => exact ⟨sound.1.mono follows.1, sound.2⟩
  | rechecking expected opened owner =>
    refine ⟨Nat.le_trans sound.1 follows.1, ?_⟩
    intro same
    have still : state.lifecycle.generation = next.lifecycle.generation :=
      Nat.le_antisymm follows.1 (same ▸ sound.1)
    cases departed : next.departed with
    | false => rfl
    | true => exact (follows.2 still departed).symm.trans (sound.2 (same.trans still.symm))
  | _ => trivial

/-- What a step does to the mutex. -/
def Locks (state : State) (index : Nat) (before : Phase) (next : State) (after : Phase) : Prop :=
  (next.locked = state.locked ∧ after ≠ .advancing) ∨
    (state.locked = none ∧ next.locked = some index) ∨
    (before = .advancing ∧ next.locked = none ∧ after ≠ .advancing)

/-- What a step of a call keeps. -/
structure Kept (state : State) (index : Nat) (before : Phase) (next : State) (after : Phase) : Prop where
  stores : Stores next
  follows : Follows state next
  sound : after.Sound next.lifecycle.generation next.departed
  honest : Call.Honest ⟨after, next.lifecycle.generation, next.departed⟩
  locks : Locks state index before next after

/-- Phases of which nothing is known. -/
def Phase.plain : Phase -> Bool
  | .flag _ | .file _ | .epoch _ | .reading _ _ | .rechecking _ _ _ | .advancing => false
  | .ended (.error _) => true
  | .ended .connected => true
  | .ended .signedOut => true
  | .ended _ => false
  | _ => true

variable {before after : Phase}

theorem Kept.plain {index : Nat} (stores : Stores next) (follows : Follows state next)
    (locked : next.locked = state.locked) (plain : after.plain = true) : Kept state index before next after where
  stores := stores
  follows := follows
  sound := by cases after <;> trivial
  honest := by
    cases after with
    | ended result => cases result <;> trivial
    | _ => trivial
  locks := by
    refine Or.inl ⟨locked, ?_⟩
    intro same
    rw [same] at plain
    cases plain

theorem Kept.rests {index : Nat} (stores : Stores state) (plain : after.plain = true) :
    Kept state index before state after := .plain stores (.refl _) rfl plain

/-- A step that changes nothing of what the stores rest on. -/
theorem Kept.aside {index : Nat} {before after : Phase} {holder client installed : Option Nat}
    (stores : Stores state) (plain : after.plain = true) :
    Kept state index before { state with holder := holder, client := client, installed := installed } after :=
  .plain ⟨stores.departed, stores.locked, stores.registered⟩ (.refl _) rfl plain

theorem Kept.reads {index : Nat} (stores : Stores state)
    (sound : after.Sound state.lifecycle.generation state.departed)
    (honest : Call.Honest ⟨after, state.lifecycle.generation, state.departed⟩) (other : after ≠ .advancing) :
    Kept state index before state after :=
  ⟨stores, .refl _, sound, honest, Or.inl ⟨rfl, other⟩⟩

/-- The owner that was read, for what it was read. -/
theorem answered_kept {index loaded : Nat} {purpose : Purpose} {owner : Int}
    (stores : Stores state) (sound : Phase.Sound state.lifecycle.generation state.departed (.reading purpose loaded))
    (current : loaded = state.lifecycle.generation) (staying : state.departed = false) :
    Kept state index before state (answered purpose owner) := by
  cases purpose with
  | owner => exact .reads stores trivial staying (fun same => by cases same)
  | opening expected generation =>
    exact .reads stores ⟨sound.1, fun _ => staying⟩ trivial (fun same => by cases same)
  | validating guard =>
    by_cases same : owner = guard.owner
    · simp only [answered, if_neg (not_not.mpr same)]
      exact .reads stores trivial ⟨staying, (sound.2 guard rfl).symm.trans current⟩ (fun same => by cases same)
    · simp only [answered, if_pos same]
      exact .rests stores rfl

theorem Stores.forgetFile (stores : Stores state) : Stores { state with file := none } :=
  ⟨fun _ => Or.inr rfl, stores.locked, stores.registered⟩

theorem openSession_locked (state : State) : state.openSession.1.locked = state.locked := by
  unfold State.openSession
  split
  · rfl
  · rfl

theorem opened_kept {index : Nat} {before after : Phase} (stores : Stores state)
    (opened : (if state.locked.isSome then none
      else some (state.openSession.1, Phase.registering state.openSession.2)) = some (next, after)) :
    Kept state index before next after := by
  rcases Option.ite_none_left_eq_some.mp opened with ⟨-, same⟩
  cases same
  exact .plain stores.openSession.1 stores.openSession.2 (openSession_locked state) rfl

theorem registerSession_locked {session : Nat} {readable : Bool}
    (registered : state.registerSession session readable = .ok next) : next.locked = state.locked := by
  unfold State.registerSession at registered
  split at registered
  · cases registered
  split at registered
  · cases registered
  split at registered
  · cases registered
    rfl
  split at registered
  · cases registered
  · cases registered
    rfl

theorem completeVerified_locked {capture : AuthenticationSession} {peer : PeerInfo}
    (completed : state.completeVerified capture peer = .ok next) : next.locked = state.locked := by
  unfold State.completeVerified at completed
  split at completed
  · cases completed
  split at completed
  · cases completed
  · cases completed
    rfl

/-- What holds of a call in a run, by the index it has. -/
structure Going (state : State) (index : Nat) (phase : Phase) : Prop where
  sound : phase.Sound state.lifecycle.generation state.departed
  locked : phase = .advancing -> state.locked = some index

theorem step_kept {index : Nat} {call : Call} {outcome : Outcome} (stores : Stores state)
    (going : Going state index call.phase) (there : state.calls[index]? = some call)
    (orderedly : orderly state (.advance index outcome) = true)
    (stepped : state.step root index call.phase outcome = some (next, after)) :
    Kept state index call.phase next after := by
  rcases call with ⟨phase, generation, departed⟩
  simp only [orderly, there] at orderedly
  rcases going with ⟨sound, held⟩
  dsimp only at *
  cases phase with
  | opens expected =>
    cases outcome <;> cases stepped
    exact .reads stores (Nat.le_refl _) trivial (fun same => by cases same)
  | validates guard =>
    cases outcome <;> cases stepped
    by_cases same : guard.generation = state.lifecycle.generation
    · rw [if_neg (not_not.mpr same)]
      exact .reads stores trivial trivial (fun same => by cases same)
    · rw [if_pos same]
      exact .rests stores rfl
  | flag purpose | file purpose =>
    cases outcome <;> cases stepped
    split
    · exact .rests stores rfl
    · exact .reads stores sound trivial (fun same => by cases same)
  | epoch purpose =>
    cases outcome <;> cases stepped
    refine .reads stores ⟨sound, ?_⟩ trivial (fun same => by cases same)
    intro guard same
    cases same
    exact (of_decide_eq_true orderedly).symm
  | reading purpose loaded =>
    cases outcome with
    | go | fails =>
      rcases Option.ite_none_left_eq_some.mp stepped with ⟨-, done⟩
      split at done
      next owner read =>
        cases done
        rcases readOwner_ok stores read with ⟨down, current, named⟩
        refine answered_kept stores sound current ?_
        cases departed : state.departed with
        | false => rfl
        | true =>
          rcases stores.departed departed with up | nobody
          · cases down.symm.trans up
          · cases named.symm.trans nobody
      · cases done
        exact .rests stores rfl
    | peer peer => cases stepped
  | rechecking expected opened owner =>
    cases outcome <;> cases stepped
    split
    · exact .rests stores rfl
    next same =>
      rw [Bool.or_eq_true, not_or, decide_eq_true_eq, not_not] at same
      exact .reads stores trivial ⟨sound.2 same.1, same.1⟩ (fun other => by cases other)
  | suspending =>
    cases outcome with
    | go =>
      rcases Option.ite_none_left_eq_some.mp stepped with ⟨free, same⟩
      cases same
      exact ⟨⟨fun _ => Or.inl rfl, fun _ => rfl, stores.registered⟩, .refl _, trivial, trivial,
        Or.inr (Or.inl ⟨Option.not_isSome_iff_eq_none.mp free, rfl⟩)⟩
    | _ => cases stepped
  | advancing =>
    cases outcome <;> cases stepped
    have up := stores.locked (by rw [held rfl]; rfl)
    exact ⟨⟨fun _ => Or.inl up, nofun, stores.registered⟩,
      ⟨Nat.le_succ _, fun same => absurd same (Nat.ne_of_lt (Nat.lt_succ_self _))⟩, trivial, trivial,
      Or.inr (Or.inr ⟨rfl, rfl, fun same => by cases same⟩)⟩
  | revoking =>
    cases outcome <;> cases stepped
    exact .rests stores rfl
  | clearingClient | dropping =>
    cases outcome with
    | go =>
      rcases Option.ite_none_left_eq_some.mp stepped with ⟨-, same⟩
      cases same
      exact .aside stores rfl
    | _ => cases stepped
  | clearingSession | installing session =>
    cases outcome <;> cases stepped
    exact .aside stores rfl
  | removing =>
    cases outcome <;> cases stepped
    · exact .plain stores.forgetFile (.refl _) rfl rfl
    · exact .rests stores rfl
  | resuming =>
    cases outcome with
    | go =>
      rcases Option.ite_none_left_eq_some.mp stepped with ⟨free, same⟩
      cases same
      refine .plain ⟨?_, ?_, stores.registered⟩ (.refl _) rfl rfl
      · intro departed
        rw [departed, Bool.not_true, Bool.false_or] at orderedly
        exact Or.inr (Option.isNone_iff_eq_none.mp orderedly)
      · exact fun locked => absurd locked free
    | _ => cases stepped
  | locking =>
    cases outcome with
    | go =>
      rcases Option.ite_none_left_eq_some.mp stepped with ⟨-, rest⟩
      split at rest
      · cases rest
        exact .rests stores rfl
      · cases rest
        exact .aside stores rfl
    | _ => cases stepped
  | opening attempts =>
    cases outcome with
    | go => exact opened_kept stores stepped
    | fails =>
      cases stepped
      split
      · exact .rests stores rfl
      · exact .rests stores rfl
    | peer peer => cases stepped
  | quarantining =>
    cases outcome with
    | go =>
      unfold State.step at stepped
      dsimp only at stepped
      split at stepped
      · cases stepped
        exact .aside stores rfl
      · cases stepped
        exact .plain stores.forgetFile (.refl _) rfl rfl
    | fails =>
      cases stepped
      exact .aside stores rfl
    | peer peer => cases stepped
  | recreating =>
    cases outcome with
    | go => exact opened_kept stores stepped
    | fails =>
      cases stepped
      exact .aside stores rfl
    | peer peer => cases stepped
  | registering session =>
    cases outcome with
    | go | fails =>
      rcases Option.ite_none_left_eq_some.mp stepped with ⟨-, done⟩
      split at done
      next middle registered =>
        cases done
        rcases stores.registerSession registered with ⟨kept, follows⟩
        exact .plain kept follows (registerSession_locked registered) rfl
      · cases done
        exact .aside stores rfl
    | peer peer => cases stepped
  | capturing =>
    cases outcome with
    | go =>
      rcases Option.ite_none_left_eq_some.mp stepped with ⟨-, rest⟩
      split at rest
      · cases rest
        exact .rests stores rfl
      split at rest
      · cases rest
        exact .rests stores rfl
      split at rest
      · cases rest
        exact .rests stores rfl
      · cases rest
        exact .rests stores rfl
    | _ => cases stepped
  | captured capture =>
    cases outcome with
    | go => cases stepped
    | fails =>
      cases stepped
      exact .rests stores rfl
    | peer peer =>
      rcases Option.ite_none_left_eq_some.mp stepped with ⟨free, done⟩
      split at done
      next completed =>
        cases done
        rcases stores.completeVerified (Option.not_isSome_iff_eq_none.mp free) completed with
          ⟨kept, follows, current⟩
        exact ⟨kept, follows, trivial, current,
          Or.inl ⟨completeVerified_locked completed, fun same => by cases same⟩⟩
      · cases done
        exact .rests stores rfl
  | ended result => cases outcome <;> cases stepped

/-! ## Whole runs -/

/-- What holds of the stores and of every call. -/
structure Sound (state : State) : Prop where
  stores : Stores state
  going : forall index call, state.calls[index]? = some call -> Going state index call.phase
  honest : forall call, call ∈ state.calls -> call.Honest

theorem Sound.initially (file : Option Nat) (owner : Nat -> Option Int) :
    Sound (State.initial file owner) where
  stores := ⟨nofun, nofun, nofun⟩
  going := nofun
  honest := nofun

theorem Sound.join (sound : Sound state) {phase : Phase}
    (known : forall generation departed, phase.Sound generation departed)
    (honest : forall generation departed, Call.Honest ⟨phase, generation, departed⟩)
    (other : phase ≠ .advancing) : Sound (state.join phase) where
  stores := ⟨sound.stores.departed, sound.stores.locked, sound.stores.registered⟩
  going index call there := by
    rcases Nat.lt_or_ge index state.calls.length with inside | outside
    · have old : state.calls[index]? = some call := by
        rw [← there]
        exact (List.getElem?_append_left inside).symm
      exact ⟨(sound.going index call old).sound, (sound.going index call old).locked⟩
    · simp only [State.join, List.getElem?_append_right outside] at there
      have new := List.mem_singleton.mp (List.mem_of_getElem? there)
      rw [new]
      exact ⟨known _ _, fun same => absurd same other⟩
  honest call member := by
    rcases List.mem_append.mp member with old | new
    · exact sound.honest call old
    · rw [List.mem_singleton.mp new]
      exact honest _ _

theorem Sound.step {event : Event} (sound : Sound state) (orderedly : orderly state event = true)
    (moved : (accountMachine root).step state event = some next) : Sound next := by
  cases event with
  | currentOwner | openGuard expected | logout | connect | reconnect | login =>
    cases moved
    exact sound.join (fun _ _ => trivial) (fun _ _ => trivial) (fun same => by cases same)
  | validate guard =>
    simp only [accountMachine, State.act] at moved
    split at moved
    · cases moved
      exact sound.join (fun _ _ => trivial) (fun _ _ => trivial) (fun same => by cases same)
    · cases moved
  | release session =>
    simp only [accountMachine, State.act] at moved
    split at moved
    · cases moved
      exact ⟨⟨sound.stores.departed, sound.stores.locked, sound.stores.registered⟩,
        fun index call there => ⟨(sound.going index call there).sound, (sound.going index call there).locked⟩,
        sound.honest⟩
    · cases moved
  | advance index outcome =>
    simp only [accountMachine, State.act, Option.bind_eq_some_iff, Option.map_eq_some_iff] at moved
    rcases moved with ⟨call, there, ⟨middle, after⟩, stepped, same⟩
    cases same
    have going := sound.going index call there
    have kept := step_kept sound.stores going there orderedly stepped
    refine ⟨⟨kept.stores.departed, kept.stores.locked, kept.stores.registered⟩, ?_, ?_⟩
    · intro place other found
      by_cases same : index = place
      · subst same
        rw [List.getElem?_set_self (List.getElem?_eq_some_iff.mp there).1] at found
        cases found
        refine ⟨kept.sound, ?_⟩
        intro advancing
        rcases kept.locks with ⟨-, different⟩ | ⟨-, taken⟩ | ⟨-, -, different⟩
        · exact absurd advancing different
        · exact taken
        · exact absurd advancing different
      · rw [List.getElem?_set_ne same] at found
        have before := sound.going place other found
        refine ⟨before.sound.follows kept.follows, ?_⟩
        intro advancing
        have mine := before.locked advancing
        rcases kept.locks with ⟨still, -⟩ | ⟨free, -⟩ | ⟨advanced, -, -⟩
        · exact still.trans mine
        · cases free.symm.trans mine
        · exact absurd (Option.some.inj ((going.locked advanced).symm.trans mine)) same
    · intro other inside
      rcases List.mem_or_eq_of_mem_set inside with old | new
      · exact sound.honest other old
      · rw [new]
        exact kept.honest

/-- In every orderly run, from a sign-out on nobody is told an owner and no guard is opened
until a login of a session captured since is completed; and a guard validates in the
generation it was opened in only. -/
theorem sign_out_ends_old_use (root : String) (file : Option Nat) (owner : Nat -> Option Int)
    (events : List Event) (state : State)
    (run : (accountMachine root).Run (fun state event => orderly state event = true)
      (State.initial file owner) events state) : forall call, call ∈ state.calls -> call.Honest :=
  (run.invariant Sound (fun _ _ _ orderedly sound moved => sound.step orderedly moved)
    (.initially file owner)).honest

/-- A connection that finds the session file unopened, steps of the call at an index. -/
def connection (index : Nat) : List Event :=
  [.connect] ++ List.replicate 5 (.advance index .go)

/-- Sign-out up to the removal of the file, and the end of the old client. -/
def departure (index session : Nat) : List Event :=
  [.logout] ++ List.replicate 5 (.advance index .go) ++ [.release session]

/-- Connect, sign out, connect again after the file is gone, sign in as another account,
and read the owner. -/
def changeOfAccount : List Event :=
  connection 0 ++ departure 1 0 ++ [.advance 1 .go] ++ connection 2 ++
    [.login, .advance 3 .go, .advance 3 (.peer ⟨9, true⟩), .currentOwner] ++
      List.replicate 4 (.advance 4 .go)

theorem next_account_is_read :
    Exists fun state =>
      (accountMachine "").Run (fun state event => orderly state event = true)
        (State.initial (some 0) fun _ => some 7) changeOfAccount state ∧
      (forall call, call ∈ state.calls -> call.Honest) ∧
      state.calls.map Call.phase =
        [.ended .connected, .ended .signedOut, .ended .connected, .ended (.completed ⟨1, 1⟩),
          .ended (.owner 9)] := by
  exact (Machine.exists_guarded_run (by decide +kernel)).imp fun state found =>
    ⟨found.1, sign_out_ends_old_use "" (some 0) (fun _ => some 7) _ state found.1, found.2⟩

/-- A connection begins before the file of the departing account is removed. -/
def connectDuringSignOut : List Event :=
  connection 0 ++ departure 1 0 ++ [.connect, .advance 2 .go, .currentOwner] ++
    List.replicate 4 (.advance 3 .go)

/-- A guard is validated; between its two looks the account signs out and in again. -/
def validateAcrossSignOut : List Event :=
  connection 0 ++ [.validate ⟨"", 7, 0⟩, .advance 1 .go] ++ departure 2 0 ++ [.advance 2 .go] ++ connection 3 ++
    [.login, .advance 4 .go, .advance 4 (.peer ⟨7, true⟩)] ++ List.replicate 4 (.advance 1 .go)

/-- The owner that is leaving is read, and a guard of the generation before is valid. -/
theorem old_account_is_used :
    (Exists fun state =>
      (accountMachine "").Run Machine.anything (State.initial (some 0) fun _ => some 7)
        connectDuringSignOut state ∧
      ⟨.ended (.owner 7), 1, true⟩ ∈ state.calls ∧ ¬ forall call, call ∈ state.calls -> call.Honest) ∧
    (Exists fun state =>
      (accountMachine "").Run Machine.anything (State.initial (some 0) fun _ => some 7)
        validateAcrossSignOut state ∧
      ⟨.ended (.validated ⟨"", 7, 0⟩), 1, false⟩ ∈ state.calls ∧
      ¬ forall call, call ∈ state.calls -> call.Honest) := by
  constructor
  · refine (Machine.exists_run ?_).imp fun state found => ⟨found.1, found.2, fun honest => ?_⟩
    · decide +kernel
    · exact Bool.noConfusion (honest _ found.2)
  · refine (Machine.exists_run ?_).imp fun state found => ⟨found.1, found.2, fun honest => ?_⟩
    · decide +kernel
    · exact absurd (honest _ found.2).2 (by decide)

end Workspace
end TelegramDrive
