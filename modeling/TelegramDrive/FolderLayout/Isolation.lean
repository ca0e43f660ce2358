import TelegramDrive.FolderLayout.Ownership

namespace TelegramDrive
namespace FolderLayout

/-!
# Layouts of different accounts stay apart

The layout of an account is what the tables hold while the marker names the account, and
what is kept in its own database otherwise.  As long as the marker can be read and every
edit finds the tables marked for the account of its session, each account has exactly the
layout that its own commands made, in every state in which the process may stop.
-/

variable {state next changed : State} {command : Command} {account owner : Account}

/-! ## What is to be kept -/

/-- What `activate` would bring back for an account. -/
def State.layoutOf (state : State) (account : Account) : SavedLayout :=
  if state.marker = some account.id then state.database.tables.layout
  else (state.records account).getD .empty

structure LayoutsKept (state : State) : Prop where
  faithful : forall account, state.layoutOf account = state.layouts account
  readable : forall account, state.marker ≠ none -> readableBy state.marker (some account) = true ->
    state.database.tables.layout = state.layouts account
  /-- Right after `activate` succeeded. -/
  restored : forall command account, state.active = some (command, .showing (some account)) ->
    state.marker = some account.id ∧ state.database.tables.layout = state.layouts account

/-- The step executes a statement of an edit or of a scan that was issued in this session. -/
def Writes (state : State) (event : Event) (session : Option Account) : Prop :=
  Exists fun command => Exists fun statement => Exists fun rest => Exists fun result => Exists fun reply =>
    state.active = some (command, .writing (statement :: rest) result) ∧ event = .work reply ∧
      command.session = session

structure OwnLayoutOnly (state : State) (event : Event) (next : State) : Prop where
  /-- An edit or a scan leaves the layouts of all other accounts as they are. -/
  others : forall session, Writes state event session ->
    forall account, session ≠ some account -> next.layoutOf account = state.layoutOf account
  /-- Once layouts have owners, only its own commands change what an account should have. -/
  expected : state.marker ≠ none -> forall account, ¬ Writes state event (some account) ->
    next.layouts account = state.layouts account

/-- The marker is read, or what is taken from its absence is what it says; and an edit
finds the tables marked for the account of its session. -/
def owned (state : State) : Event -> Bool
  | .work reply =>
    match state.active with
    | some (_, .reading owner) | some (_, .leaving (some owner)) =>
      reply != .failed || state.marker == none || state.marker == some owner.id
    | some (_, .leavingUnowned) => reply == .failed || state.marker == none || state.marker == some noOwner
    | some (.edit session _, .editing) =>
      match session with
      | some account => state.marker == some account.id
      | none => false
    | _ => true
  | _ => true

/-! ## The invariant -/

/-- Apart from the command that is active. -/
structure Core (state : State) : Prop where
  held : forall account : Account, state.marker = some account.id ->
    state.database.tables.layout = state.layouts account
  aside : forall account : Account, state.marker ≠ some account.id ->
    (state.records account).getD .empty = state.layouts account
  settled : state.database.transaction = false -> state.database.durable = state.database.tables
  outside : state.database.transaction = true -> state.marker = some noOwner

/-- The account that is marked can be switched out. -/
def Saved (state : State) : Prop :=
  forall account : Account, state.marker = some account.id ->
    state.records account = some state.database.tables.layout

/-- The tables can be marked for an account. -/
def Claimable (state : State) (owner : Account) : Prop :=
  state.marker = none ∨ state.marker = some owner.id ∨
    (state.marker = some noOwner ∧ state.database.transaction = false ∧
      state.database.tables.layout = state.layouts owner)

def Marks (state : State) (command : Command) : Marking -> Prop
  | .swap owner => command.scope = some owner ∧ Saved state
  | .claim owner => command.scope = some owner ∧ Claimable state owner
  | .clear => Saved state

/-- The tables are marked for the account in whose session the command was issued. -/
def Permitted (state : State) (command : Command) : Prop :=
  Exists fun account => command.session = some account ∧ state.marker = some account.id

/-- What holds while the active command stands at a point. -/
def Stands (state : State) (command : Command) : Point -> Prop
  | .validating owner | .reading owner => command.scope = some owner
  | .saving previous owner => command.scope = some owner ∧ state.marker = some previous
  | .loading owner => command.scope = some owner ∧ state.marker = some noOwner
  | .staging marking => Marks state command marking
  | .moving marking => Marks state command marking ∧ state.staged = some marking.value
  | .beginning layout owner =>
    state.marker = some noOwner ∧
      forall account, owner = some account -> command.scope = some account ∧ layout = state.layouts account
  | .replacing statements owner =>
    state.marker = some noOwner ∧
      forall account, owner = some account -> command.scope = some account ∧
        state.database.tables.layout.runAll statements = some (state.layouts account)
  | .rollingBack => state.marker = some noOwner
  | .showing owner =>
    command.scope = owner ∧ forall account, owner = some account -> state.marker = some account.id
  | .merging | .writing _ _ => Permitted state command
  | .settingAside owner => state.marker = none ∨ state.marker = some owner
  | .querying | .editing | .leaving _ | .leavingUnowned => True

structure Sound (state : State) : Prop where
  core : Core state
  stands : forall command point, state.active = some (command, point) -> Stands state command point

/-- What a step of the active command keeps. -/
structure Kept (next : State) (command : Command) (stage : Stage) : Prop where
  core : Core next
  stands : forall point, stage = .goes point -> Stands next command point

theorem Kept.goes {point : Point} (core : Core next) (stands : Stands next command point) :
    Kept next command (.goes point) :=
  ⟨core, fun other same => by cases same; exact stands⟩

theorem Kept.ends {result : Result} (core : Core next) : Kept next command (.ends result) :=
  ⟨core, fun other same => by cases same⟩

variable {reply : Reply} {stage : Stage}

/-- An access keeps what its effect and its absence keep. -/
theorem Kept.access {after : Stage} (core : Core state) (kept : Kept changed command stage)
    (moved : state.access changed stage reply = some (next, after)) : Kept next command after := by
  cases reply with
  | done =>
    cases moved
    exact kept
  | failed =>
    cases moved
    exact .ends core
  | failedLate =>
    cases moved
    exact .ends kept.core
  | rolledBack | visited ids => cases moved

/-! ## Writing the marker -/

theorem Core.staged (core : Core state) (value : Option Int) : Core { state with staged := value } :=
  ⟨core.held, core.aside, core.settled, core.outside⟩

/-- Nobody owns the tables any more, and whoever did is saved. -/
theorem Core.released (core : Core state) (saved : Saved state) :
    Core { state with marker := some noOwner, staged := none } := by
  constructor
  · intro account marked
    exact absurd (Option.some.inj marked) account.ne_noOwner
  · intro account _
    by_cases marked : state.marker = some account.id
    · have record := saved account marked
      rw [← core.held account marked]
      show (state.records account).getD .empty = _
      rw [record]
      rfl
    · exact core.aside account marked
  · exact core.settled
  · intro _
    rfl

/-- The tables are marked for an account whose layout they hold, or that takes them over. -/
theorem Core.claimed (core : Core state) (claimable : Claimable state owner) :
    Core { state.expectTables owner with marker := some owner.id, staged := none } := by
  unfold State.expectTables
  rcases claimable with missing | marked | ⟨nobody, closed, same⟩
  · rw [if_pos missing]
    constructor
    · intro account marked
      have mine : account = owner := Account.eq_of_id (Option.some.inj marked).symm
      rw [mine]
      exact (Function.update_self owner _ state.layouts).symm
    · intro account other
      have apart : account ≠ owner := fun same => other (same ▸ rfl)
      show (state.records account).getD .empty = Function.update state.layouts owner _ account
      rw [Function.update_of_ne apart]
      exact core.aside account (fun marked => by rw [missing] at marked; cases marked)
    · exact core.settled
    · intro transaction
      have marked := core.outside transaction
      rw [missing] at marked
      cases marked
  · have named : state.marker ≠ none := fun missing => by rw [missing] at marked; cases marked
    rw [if_neg named]
    constructor
    · intro account mine
      exact core.held account (marked.trans mine)
    · intro account other
      exact core.aside account (fun mine => other (marked.symm.trans mine))
    · exact core.settled
    · intro transaction
      exact marked.symm.trans (core.outside transaction)
  · have named : state.marker ≠ none := fun missing => by rw [missing] at nobody; cases nobody
    rw [if_neg named]
    constructor
    · intro account marked
      have mine : account = owner := Account.eq_of_id (Option.some.inj marked).symm
      rw [mine]
      exact same
    · intro account other
      refine core.aside account (fun mine => ?_)
      exact account.ne_noOwner (Option.some.inj (nobody.symm.trans mine))
    · exact core.settled
    · intro transaction
      rw [closed] at transaction
      cases transaction

theorem Core.staging {marking : Marking} (core : Core state)
    (marks : Marks state command marking) (moved : state.work command (.staging marking) reply = some (next, stage)) :
    Kept next command stage := by
  have stands : Stands { state with staged := some marking.value } command (.moving marking) := by
    refine ⟨?_, rfl⟩
    cases marking <;> exact marks
  exact Kept.access (core.staged none) (.goes (core.staged _) stands) moved

theorem Core.moving {marking : Marking} (core : Core state)
    (marks : Marks state command marking) (staged : state.staged = some marking.value)
    (moved : state.work command (.moving marking) reply = some (next, stage)) : Kept next command stage := by
  refine Kept.access core ?_ moved
  cases marking with
  | swap owner =>
    unfold State.renamed
    rw [staged]
    exact .goes (core.released marks.2) ⟨marks.1, rfl⟩
  | claim owner =>
    unfold State.renamed
    rw [staged]
    refine .goes (core.claimed marks.2) ⟨marks.1, ?_⟩
    intro account same
    cases same
    rfl
  | clear =>
    unfold State.renamed
    rw [staged]
    exact .goes (core.released marks) ⟨rfl, fun account same => by cases same⟩

/-! ## Saving a layout -/

/-- An account's layout is set aside while the tables are its own, or nobody's yet. -/
theorem Core.setAside (core : Core state) (mine : state.marker = none ∨ state.marker = some account.id) :
    Core ((state.saveFor account).expectTables account) ∧
      Saved ((state.saveFor account).expectTables account) := by
  have saved : (state.saveFor account).records account = some state.database.tables.layout :=
    Function.update_self account _ state.records
  have kept : forall other, other ≠ account -> (state.saveFor account).records other = state.records other :=
    fun other apart => Function.update_of_ne apart _ _
  unfold State.expectTables
  rcases mine with missing | marked
  · rw [if_pos (show (state.saveFor account).marker = none from missing)]
    have nobody : forall other : Account, state.marker ≠ some other.id :=
      fun other marked => by rw [missing] at marked; cases marked
    refine ⟨⟨fun other marked => absurd marked (nobody other), ?_, core.settled, core.outside⟩,
      fun other marked => absurd marked (nobody other)⟩
    intro other _
    show ((state.saveFor account).records other).getD .empty = Function.update state.layouts account _ other
    by_cases same : other = account
    · rw [same, saved, Function.update_self]
      rfl
    · rw [kept other same, Function.update_of_ne same]
      exact core.aside other (nobody other)
  · have named : (state.saveFor account).marker ≠ none :=
      fun missing => by rw [show (state.saveFor account).marker = _ from marked] at missing; cases missing
    rw [if_neg named]
    refine ⟨⟨core.held, ?_, core.settled, core.outside⟩, ?_⟩
    · intro other unmarked
      have apart : other ≠ account := fun same => unmarked (same ▸ marked)
      rw [kept other apart]
      exact core.aside other unmarked
    · intro other markedOther
      have same : other = account := Account.eq_of_id (Option.some.inj (markedOther.symm.trans marked))
      rw [same]
      exact saved

/-! ## Replacing the tables -/

/-- While the tables belong to nobody, they may hold anything. -/
theorem Core.nobody (core : Core state) (nobody : state.marker = some noOwner) {database : Database}
    (settled : database.transaction = false -> database.durable = database.tables) :
    Core { state with database := database } :=
  ⟨fun account marked => absurd (Option.some.inj (nobody.symm.trans marked)) account.ne_noOwner,
    core.aside, settled, fun _ => nobody⟩

theorem Database.execute_eq_some {database after : Database} {statement : Statement}
    (executed : database.execute statement = some after) :
    database.tables.layout.run statement = some after.tables.layout ∧
      after.transaction = database.transaction ∧
      (database.transaction = false -> after.durable = after.tables) := by
  unfold Database.execute at executed
  rcases Option.map_eq_some_iff.mp executed with ⟨tables, ran, same⟩
  have layout := Tables.run_layout ran
  split at same
  next transaction =>
    cases same
    exact ⟨layout, rfl, fun closed => by rw [transaction] at closed; cases closed⟩
  next closed =>
    cases same
    exact ⟨layout, (Bool.eq_false_iff.mpr closed).symm, fun _ => rfl⟩
/-- A statement inside the transaction of `write_tables`, or its end without one. -/
theorem Core.replacing {statements : List Statement} {target : Option Account}
    (core : Core state) (stands : Stands state command (.replacing statements target))
    (moved : state.work command (.replacing statements target) reply = some (next, stage)) :
    Kept next command stage := by
  have nobody : state.marker = some noOwner := stands.1
  have committed : Core { state with database := state.database.commit } := core.nobody nobody fun _ => rfl
  have undone : Core { state with database := state.database.rollback } := core.nobody nobody fun _ => rfl
  cases statements with
  | nil =>
    have finished : Kept { state with database := state.database.commit } command
        (State.afterReplacing target) := by
      cases target with
      | none => exact .ends committed
      | some owner =>
        have mine := stands.2 owner rfl
        refine .goes committed ⟨mine.1, Or.inr (Or.inr ⟨nobody, rfl, ?_⟩)⟩
        exact Option.some.inj mine.2
    cases reply with
    | rolledBack =>
      cases moved
      exact .ends undone
    | done =>
      cases moved
      exact finished
    | failed =>
      cases moved
      exact .ends core
    | failedLate =>
      cases moved
      exact .ends committed
    | visited ids => cases moved
  | cons statement rest =>
    cases reply with
    | done =>
      unfold State.work at moved
      dsimp only at moved
      split at moved
      next database executed =>
        cases moved
        rcases Database.execute_eq_some executed with ⟨ran, -, settled⟩
        refine .goes (core.nobody nobody ?_) ⟨nobody, ?_⟩
        · intro closed
          exact settled (by rw [← (Database.execute_eq_some executed).2.1]; exact closed)
        · intro account same
          rcases stands.2 account same with ⟨scope, whole⟩
          rw [SavedLayout.runAll_cons, ran] at whole
          exact ⟨scope, whole⟩
      · cases moved
        exact .goes core nobody
    | failed =>
      cases moved
      exact .goes core nobody
    | failedLate | visited ids => cases moved
    | rolledBack =>
      cases moved
      exact .goes undone nobody

/-! ## Edits and scans -/

/-- A statement of the account whose tables are marked changes its layout, and it is
what the statement should make of it. -/
theorem Core.statement (core : Core state) {statement : Statement} {database : Database}
    (permitted : Permitted state command) (executed : state.database.execute statement = some database) :
    Core ({ state with database := database }.expectStatement command.session statement) ∧
      Permitted ({ state with database := database }.expectStatement command.session statement) command := by
  rcases permitted with ⟨account, session, marked⟩
  rcases Database.execute_eq_some executed with ⟨ran, transaction, settled⟩
  have closed : state.database.transaction = false := by
    rw [Bool.eq_false_iff]
    intro inside
    exact account.ne_noOwner (Option.some.inj ((core.outside inside).symm.trans marked))
  have made : ((state.layouts account).run statement).getD (state.layouts account) = database.tables.layout := by
    rw [← core.held account marked, ran]
    rfl
  unfold State.expectStatement
  rw [session]
  dsimp only
  rw [made]
  refine ⟨⟨?_, ?_, fun _ => settled closed, ?_⟩, account, session, marked⟩
  · intro other markedOther
    have same : other = account := Account.eq_of_id (Option.some.inj (markedOther.symm.trans marked))
    rw [same]
    exact (Function.update_self account _ state.layouts).symm
  · intro other unmarked
    have apart : other ≠ account := fun same => unmarked (same ▸ marked)
    show (state.records other).getD .empty = Function.update state.layouts account _ other
    rw [Function.update_of_ne apart]
    exact core.aside other unmarked
  · intro inside
    rw [show database.transaction = false from transaction.trans closed] at inside
    cases inside

theorem Core.writing {statements : List Statement} {result : Result}
    (core : Core state) (permitted : Permitted state command)
    (moved : state.work command (.writing statements result) reply = some (next, stage)) :
    Kept next command stage := by
  cases statements with
  | nil =>
    cases reply <;> cases moved <;> exact .ends core
  | cons statement rest =>
    unfold State.work at moved
    dsimp only at moved
    split at moved
    next database executed =>
      rcases core.statement permitted executed with ⟨after, still⟩
      have stands : Stands _ command (.writing rest result) := still
      exact Kept.access core (.goes after stands) moved
    · cases moved
      exact .ends core

/-! ## Reading the marker -/

theorem readMarker_cases {marker : Option Int} (read : state.readMarker reply = some marker) :
    (reply = .done ∧ marker = state.marker) ∨ (reply = .failed ∧ marker = none) := by
  cases reply <;> cases read
  · exact Or.inl ⟨rfl, rfl⟩
  · exact Or.inr ⟨rfl, rfl⟩

theorem missing_of_owned {marker : Option Int} (read : state.readMarker reply = some marker)
    (permitted : (reply != .failed || state.marker == none || state.marker == some owner.id) = true)
    (missing : marker = none) : state.marker = none ∨ state.marker = some owner.id := by
  rcases readMarker_cases read with ⟨-, same⟩ | ⟨failed, -⟩
  · exact Or.inl (same.symm.trans missing)
  · rw [failed, Bool.or_assoc, Bool.or_eq_true, Bool.or_eq_true, beq_iff_eq, beq_iff_eq] at permitted
    rcases permitted with impossible | known
    · exact absurd impossible (by decide)
    · exact known

theorem marker_of_read {current : Int} (read : state.readMarker reply = some (some current)) :
    state.marker = some current := by
  rcases readMarker_cases read with ⟨-, same⟩ | ⟨-, same⟩
  · exact same.symm
  · cases same

theorem Core.reading (core : Core state) (scope : command.scope = some owner)
    (permitted : (reply != .failed || state.marker == none || state.marker == some owner.id) = true)
    (moved : state.work command (.reading owner) reply = some (next, stage)) : Kept next command stage := by
  rcases Option.map_eq_some_iff.mp moved with ⟨marker, read, went⟩
  cases marker with
  | none =>
    cases went
    refine .goes core ⟨scope, ?_⟩
    rcases missing_of_owned read permitted rfl with missing | mine
    · exact Or.inl missing
    · exact Or.inr (Or.inl mine)
  | some current =>
    have marked := marker_of_read read
    dsimp only at went
    split at went
    next mine =>
      cases went
      refine .goes core ⟨scope, ?_⟩
      intro account same
      cases same
      rw [marked, mine]
    · split at went
      next nobody =>
        cases went
        refine .goes core ⟨scope, ?_⟩
        intro account markedOther
        exact absurd (nobody.symm.trans (Option.some.inj (marked.symm.trans markedOther))) account.ne_noOwner
      · cases went
        exact .goes core ⟨scope, marked⟩

theorem Core.leaving {signingOut : Option Account} (core : Core state)
    (permitted : forall account, signingOut = some account ->
      (reply != .failed || state.marker == none || state.marker == some account.id) = true)
    (moved : state.work command (.leaving signingOut) reply = some (next, stage)) : Kept next command stage := by
  rcases Option.map_eq_some_iff.mp moved with ⟨marker, read, went⟩
  cases marker with
  | some current =>
    have marked := marker_of_read read
    cases went
    split
    · exact .goes core trivial
    · exact .goes core (Or.inr marked)
  | none =>
    cases signingOut with
    | none =>
      cases went
      exact .goes core trivial
    | some account =>
      cases went
      exact .goes core (missing_of_owned read (permitted account rfl) rfl)

theorem Core.leavingUnowned (core : Core state)
    (permitted : (reply == .failed || state.marker == none || state.marker == some noOwner) = true)
    (moved : state.work command .leavingUnowned reply = some (next, stage)) : Kept next command stage := by
  rcases Option.map_eq_some_iff.mp moved with ⟨marker, read, went⟩
  cases marker with
  | none =>
    cases went
    exact .ends core
  | some current =>
    cases went
    refine .goes core ?_
    intro account mine
    rcases readMarker_cases read with ⟨done, -⟩ | ⟨-, missing⟩
    · rw [done, mine] at permitted
      simp only [Bool.or_eq_true, beq_iff_eq, Option.some.injEq, reduceCtorEq, or_false, false_or] at permitted
      exact absurd permitted.symm account.ne_noOwner
    · cases missing
/-! ## Every access of a command -/

theorem Sound.work {point : Point} (sound : Sound state)
    (active : state.active = some (command, point)) (permitted : owned state (.work reply) = true)
    (moved : state.work command point reply = some (next, stage)) : Kept next command stage := by
  have core := sound.core
  have stands := sound.stands command point active
  unfold owned at permitted
  rw [active] at permitted
  cases point with
  | validating owner =>
    unfold State.work at moved
    cases reply <;> dsimp only at moved
    · split at moved
      · cases moved
        exact .goes core stands
      · cases moved
    · cases moved
      exact .ends core
    all_goals cases moved
  | reading owner => exact core.reading stands permitted moved
  | saving previous owner =>
    unfold State.work at moved
    dsimp only at moved
    split at moved
    next account known =>
      have mine : state.marker = some account.id := by rw [stands.2, Account.ofOwner?_eq_some known]
      have named : (state.saveFor account).marker ≠ none := by
        show state.marker ≠ none
        rw [mine]
        exact Option.some_ne_none _
      have kept := core.setAside (Or.inr mine)
      unfold State.expectTables at kept
      rw [if_neg named] at kept
      have marks : Stands (state.saveFor account) command (.staging (.swap owner)) := ⟨stands.1, kept.2⟩
      exact Kept.access core (.goes kept.1 marks) moved
    · cases moved
      exact .ends core
  | loading owner =>
    cases reply <;> cases moved
    · refine .goes core ⟨stands.2, ?_⟩
      intro account same
      cases same
      refine ⟨stands.1, core.aside owner ?_⟩
      intro mine
      exact owner.ne_noOwner (Option.some.inj (stands.2.symm.trans mine))
    · exact .ends core
  | staging marking => exact core.staging stands moved
  | moving marking => exact core.moving stands.1 stands.2 moved
  | beginning layout owner =>
    unfold State.work at moved
    dsimp only at moved
    split at moved
    · cases moved
      exact .ends core
    · have begun : Core { state with database := state.database.begin } :=
        core.nobody stands.1 fun closed => by cases closed
      have inside : Stands { state with database := state.database.begin } command
          (.replacing layout.replaceStatements owner) := by
        refine ⟨stands.1, ?_⟩
        intro account same
        rcases stands.2 account same with ⟨scope, expected⟩
        refine ⟨scope, ?_⟩
        rw [SavedLayout.runAll_replaceStatements, expected]
      exact Kept.access core (.goes begun inside) moved
  | replacing statements owner => exact core.replacing stands moved
  | rollingBack =>
    have undone : Core { state with database := state.database.rollback } := core.nobody stands fun _ => rfl
    exact Kept.access core (.ends undone) moved
  | showing scope =>
    rcases Option.bind_eq_some_iff.mp moved with ⟨marker, -, shown⟩
    rcases Option.map_eq_some_iff.mp shown with ⟨after, chosen, same⟩
    cases same
    cases command with
    | getEnrichedFolders owner | getGroups owner =>
      cases chosen
      split
      · exact .goes core trivial
      · exact .ends core
    | knownFolders owner =>
      cases chosen
      exact .goes core trivial
    | scanFolders owner folders =>
      cases chosen
      exact .goes core ⟨owner, rfl, stands.2 owner stands.1.symm⟩
    | edit session edit | signOut signingOut => cases chosen
  | querying =>
    unfold State.work at moved
    cases reply <;> dsimp only at moved
    · rcases Option.map_eq_some_iff.mp moved with ⟨result, -, same⟩
      cases same
      exact .ends core
    · cases moved
      exact .ends core
    all_goals cases moved
  | merging =>
    unfold State.work at moved
    dsimp only at moved
    split at moved
    · split at moved
      · cases moved
        exact .goes core stands
      · cases moved
    · cases moved
      exact .ends core
    · cases moved
  | editing =>
    cases command with
    | edit session edit =>
      cases session with
      | none => cases permitted
      | some account =>
        cases reply <;> cases moved
        · exact .goes core ⟨account, rfl, beq_iff_eq.mp permitted⟩
        · exact .ends core
    | _ => cases moved
  | writing statements result => exact core.writing stands moved
  | leaving signingOut =>
    refine core.leaving ?_ moved
    intro account same
    cases same
    exact permitted
  | leavingUnowned => exact core.leavingUnowned permitted moved
  | settingAside owner =>
    unfold State.work at moved
    dsimp only at moved
    split at moved
    next account known =>
      have mine : state.marker = none ∨ state.marker = some account.id := by
        rw [Account.ofOwner?_eq_some known]
        exact stands
      have kept := core.setAside mine
      have marks : Stands ((state.saveFor account).expectTables account) command (.staging .clear) := kept.2
      exact Kept.access core (.goes kept.1 marks) moved
    · cases moved
      exact .ends core

/-! ## Every step -/

theorem Stands.first (command : Command) : Stands state command command.first := by
  cases command with
  | getEnrichedFolders owner | getGroups owner =>
    cases owner with
    | none => exact ⟨rfl, fun account same => by cases same⟩
    | some owner => exact rfl
  | knownFolders owner | scanFolders owner folders => exact rfl
  | edit session edit | signOut signingOut => exact trivial

theorem Sound.initially (tables : Tables) : Sound (State.initial tables) := by
  constructor
  · constructor
    · intro account marked
      cases marked
    · intro account _
      rfl
    · intro _
      rfl
    · intro inside
      cases inside
  · intro command point active
    cases active

theorem Sound.step {event : Event} (sound : Sound state) (permitted : owned state event = true)
    (moved : layoutMachine.step state event = some next) : Sound next := by
  cases event with
  | signIn account | signOut =>
    cases moved
    exact ⟨⟨sound.core.held, sound.core.aside, sound.core.settled, sound.core.outside⟩, sound.stands⟩
  | issue command =>
    simp only [layoutMachine, State.act] at moved
    split at moved
    · cases moved
      exact ⟨⟨sound.core.held, sound.core.aside, sound.core.settled, sound.core.outside⟩, sound.stands⟩
    · cases moved
  | start index =>
    simp only [layoutMachine, State.act] at moved
    split at moved
    · cases moved
      refine ⟨⟨sound.core.held, sound.core.aside, sound.core.settled, sound.core.outside⟩, ?_⟩
      intro command point active
      cases active
      exact Stands.first _
    · cases moved
  | work reply =>
    simp only [layoutMachine, State.act] at moved
    split at moved
    next command point active =>
      rcases Option.map_eq_some_iff.mp moved with ⟨⟨middle, stage⟩, worked, settled⟩
      have kept := sound.work active permitted worked
      cases stage with
      | goes after =>
        cases settled
        refine ⟨⟨kept.core.held, kept.core.aside, kept.core.settled, kept.core.outside⟩, ?_⟩
        intro other point active
        cases active
        exact kept.stands after rfl
      | ends result =>
        cases settled
        refine ⟨⟨kept.core.held, kept.core.aside, kept.core.settled, kept.core.outside⟩, ?_⟩
        intro other point active
        cases active
    · cases moved
  | crash =>
    cases moved
    refine ⟨?_, fun command point active => by cases active⟩
    have core := sound.core
    constructor
    · intro account marked
      have closed : state.database.transaction = false := by
        rw [Bool.eq_false_iff]
        intro inside
        exact account.ne_noOwner (Option.some.inj ((core.outside inside).symm.trans marked))
      show state.database.durable.layout = state.layouts account
      rw [core.settled closed]
      exact core.held account marked
    · exact core.aside
    · intro _
      rfl
    · intro inside
      cases inside

/-! ## What an account should have -/

theorem access_layouts {after : Stage} (kept : changed.layouts = state.layouts)
    (moved : state.access changed stage reply = some (next, after)) : next.layouts = state.layouts := by
  cases reply <;> cases moved
  · exact kept
  · rfl
  · exact kept

theorem expectTables_of_marked (marked : state.marker ≠ none) (account : Account) :
    state.expectTables account = state := by
  unfold State.expectTables
  rw [if_neg marked]

theorem expectStatement_layouts {session : Option Account} {statement : Statement}
    (other : session ≠ some account) :
    (state.expectStatement session statement).layouts account = state.layouts account := by
  unfold State.expectStatement
  cases session with
  | none => rfl
  | some writer =>
    have apart : account ≠ writer := fun same => other (same ▸ rfl)
    exact Function.update_of_ne apart _ _

theorem renamed_layouts {marking : Marking} (marked : state.marker ≠ none) :
    (state.renamed marking).layouts = state.layouts := by
  cases marking with
  | swap owner | clear => rfl
  | claim owner =>
    show (state.expectTables owner).layouts = state.layouts
    rw [expectTables_of_marked marked]

/-- Where layouts have owners, an access changes at most what its own session should have. -/
theorem work_layouts {point : Point} (marked : state.marker ≠ none)
    (moved : state.work command point reply = some (next, stage)) :
    next.layouts account = state.layouts account ∨
      Exists fun statement => Exists fun rest => Exists fun result =>
        point = .writing (statement :: rest) result ∧ command.session = some account := by
  cases point with
  | writing statements result =>
    cases statements with
    | nil =>
      left
      cases reply <;> cases moved <;> rfl
    | cons statement rest =>
      by_cases mine : command.session = some account
      · exact Or.inr ⟨statement, rest, result, rfl, mine⟩
      · left
        unfold State.work at moved
        dsimp only at moved
        split at moved
        next database _ =>
          have kept : ({ state with database := database }.expectStatement command.session
              statement).layouts account = state.layouts account := expectStatement_layouts mine
          cases reply <;> cases moved
          · exact kept
          · rfl
          · exact kept
        · cases moved
          rfl
  | reading owner | leaving signingOut =>
    left
    rcases Option.map_eq_some_iff.mp moved with ⟨marker, -, went⟩
    repeat' split at went
    all_goals cases went; rfl
  | leavingUnowned =>
    left
    rcases Option.map_eq_some_iff.mp moved with ⟨marker, -, went⟩
    cases marker <;> cases went <;> rfl
  | validating owner | loading owner =>
    left
    unfold State.work at moved
    cases reply <;> dsimp only at moved
    · repeat' split at moved
      all_goals cases moved
      rfl
    · cases moved
      rfl
    all_goals cases moved
  | saving previous owner =>
    left
    unfold State.work at moved
    dsimp only at moved
    split at moved
    · cases reply <;> cases moved <;> rfl
    · cases moved
      rfl
  | settingAside owner =>
    left
    unfold State.work at moved
    dsimp only at moved
    split at moved
    next setAside _ =>
      have kept : ((state.saveFor setAside).expectTables setAside).layouts = state.layouts := by
        rw [expectTables_of_marked (show (state.saveFor setAside).marker ≠ none from marked)]
        rfl
      exact congrFun (access_layouts kept moved) account
    · cases moved
      rfl
  | staging marking | rollingBack =>
    left
    cases reply <;> cases moved <;> rfl
  | moving marking =>
    left
    exact congrFun (access_layouts (renamed_layouts marked) moved) account
  | beginning layout owner =>
    left
    unfold State.work at moved
    dsimp only at moved
    split at moved
    · cases moved
      rfl
    · cases reply <;> cases moved <;> rfl
  | replacing statements owner =>
    left
    cases statements with
    | nil => cases reply <;> cases moved <;> rfl
    | cons statement rest =>
      unfold State.work at moved
      cases reply <;> dsimp only at moved
      · split at moved <;> cases moved <;> rfl
      all_goals cases moved
      all_goals rfl
  | showing scope =>
    left
    rcases Option.bind_eq_some_iff.mp moved with ⟨marker, -, shown⟩
    rcases Option.map_eq_some_iff.mp shown with ⟨after, -, same⟩
    cases same
    rfl
  | querying =>
    left
    unfold State.work at moved
    cases reply <;> dsimp only at moved
    · rcases Option.map_eq_some_iff.mp moved with ⟨result, -, same⟩
      cases same
      rfl
    · cases moved
      rfl
    all_goals cases moved
  | merging =>
    left
    unfold State.work at moved
    dsimp only at moved
    split at moved
    · split at moved <;> cases moved
      rfl
    · cases moved
      rfl
    · cases moved
  | editing =>
    left
    unfold State.work at moved
    dsimp only at moved
    split at moved
    · cases moved
      rfl
    · cases moved
      rfl
    · cases moved
/-- Where layouts have owners, only its own edits and scans change what an account should have. -/
theorem step_layouts {event : Event} (marked : state.marker ≠ none)
    (moved : layoutMachine.step state event = some next) (quiet : ¬ Writes state event (some account)) :
    next.layouts account = state.layouts account := by
  cases event with
  | signIn owner | signOut | crash =>
    cases moved
    rfl
  | issue command | start index =>
    simp only [layoutMachine, State.act] at moved
    split at moved
    · cases moved
      rfl
    · cases moved
  | work reply =>
    simp only [layoutMachine, State.act] at moved
    split at moved
    next command point active =>
      rcases Option.map_eq_some_iff.mp moved with ⟨⟨middle, stage⟩, worked, settled⟩
      have same : next.layouts = middle.layouts := by
        cases stage <;> cases settled <;> rfl
      rw [same]
      rcases work_layouts marked worked with kept | ⟨statement, rest, result, here, mine⟩
      · exact kept
      · rw [here] at active
        exact absurd ⟨command, statement, rest, result, reply, active, rfl, mine⟩ quiet
    · cases moved

/-! ## Every run -/

theorem Core.layoutOf (core : Core state) (account : Account) : state.layoutOf account = state.layouts account := by
  unfold State.layoutOf
  split
  next mine => exact core.held account mine
  next other => exact core.aside account other

theorem Sound.kept (sound : Sound state) : LayoutsKept state := by
  constructor
  · exact sound.core.layoutOf
  · intro account named readable
    refine sound.core.held account ?_
    cases marked : state.marker with
    | none => exact absurd marked named
    | some current =>
      rw [marked] at readable
      rw [beq_iff_eq.mp readable]
  · intro command account active
    have marked := (sound.stands command _ active).2 account rfl
    exact ⟨marked, sound.core.held account marked⟩

theorem Sound.writes {event : Event} {session : Option Account} (sound : Sound state)
    (writes : Writes state event session) :
    Exists fun account => session = some account ∧ state.marker = some account.id := by
  rcases writes with ⟨command, statement, rest, result, reply, active, -, same⟩
  rcases sound.stands command _ active with ⟨account, mine, marked⟩
  exact ⟨account, same.symm.trans mine, marked⟩

theorem Sound.ownLayoutOnly {event : Event} (sound : Sound state) (permitted : owned state event = true)
    (moved : layoutMachine.step state event = some next) : OwnLayoutOnly state event next := by
  constructor
  · intro session writes account other
    rcases sound.writes writes with ⟨writer, mine, marked⟩
    have named : state.marker ≠ none := by
      rw [marked]
      exact Option.some_ne_none _
    have quiet : ¬ Writes state event (some account) := by
      intro also
      rcases sound.writes also with ⟨another, same, markedOther⟩
      have equal : writer = another := Account.eq_of_id (Option.some.inj (marked.symm.trans markedOther))
      exact other (by rw [mine, equal, same])
    rw [(sound.step permitted moved).core.layoutOf, step_layouts named moved quiet, sound.core.layoutOf]
  · intro named account quiet
    exact step_layouts named moved quiet

/-- In every run in which the marker is not misread and edits find the tables marked for
the account of their session, each account keeps exactly the layout that its own commands
made, its commands change no other layout, and `activate` brings back its own. -/
theorem layouts_are_kept (tables : Tables) (events : List Event) (state : State)
    (run : layoutMachine.Run (fun state event => owned state event = true) (State.initial tables) events state) :
    LayoutsKept state ∧ forall event next, owned state event = true ->
      layoutMachine.step state event = some next -> OwnLayoutOnly state event next := by
  have sound : Sound state :=
    run.invariant Sound (fun _ _ _ permitted sound moved => sound.step permitted moved) (.initially tables)
  exact ⟨sound.kept, fun event next permitted moved => sound.ownLayoutOnly permitted moved⟩

/-! ## Runs of two accounts -/

def noTables : Tables := ⟨.empty, 0⟩

def firstAccount : Account := ⟨1, by decide⟩
def secondAccount : Account := ⟨2, by decide⟩

/-- A command that runs through as many accesses, all of which succeed. -/
def completes (command : Command) (accesses : Nat) : List Event :=
  .issue command :: .start 0 :: List.replicate accesses (.work .done)

/-- The first account signs in, takes over the empty tables, and makes a group. -/
def makesGroup : List Event :=
  [.signIn firstAccount] ++ completes (.getEnrichedFolders (some firstAccount)) 5 ++
    completes (.edit (some firstAccount) (.createGroup "Work" "blue")) 3

/-- It signs out, the second account signs in, and then the first one again without a
sign-out in between; the process stops once while the tables belong to nobody. -/
def switches : List Event :=
  makesGroup ++ completes (.signOut (some firstAccount)) 8 ++ [.signOut, .signIn secondAccount] ++
    completes (.getEnrichedFolders (some secondAccount)) 12 ++ [.signIn firstAccount] ++
    completes (.getGroups (some firstAccount)) 6 ++ [.crash] ++
    completes (.getGroups (some firstAccount)) 11

theorem group_comes_back :
    Exists fun state =>
      layoutMachine.Run (fun state event => owned state event = true) (State.initial noTables) switches state ∧
      (LayoutsKept state ∧ forall event next, owned state event = true ->
        layoutMachine.step state event = some next -> OwnLayoutOnly state event next) ∧
      state.active = some (.getGroups (some firstAccount), .showing (some firstAccount)) ∧
      state.database.tables.layout.groups.items = [⟨1, "Work", some "blue", 1⟩] := by
  exact (Machine.exists_guarded_run (by decide +kernel)).imp fun state found =>
    ⟨found.1, layouts_are_kept noTables switches state found.1, found.2⟩

/-- At its sign-out the layout of the first account cannot be saved, and the sign-out goes
on.  The second account signs in and renames a group. -/
def renamesForeignGroup : List Event :=
  makesGroup ++ [.issue (.signOut (some firstAccount)), .start 0, .work .done, .work .failed, .signOut,
    .signIn secondAccount, .issue (.edit (some secondAccount) (.updateGroup 1 "Home" "red")), .start 0, .work .done]

theorem foreign_edit_changes_layout :
    Exists fun state => Exists fun next =>
      layoutMachine.Run Machine.anything (State.initial noTables) renamesForeignGroup state ∧
      layoutMachine.step state (.work .done) = some next ∧
      state.active = some (.edit (some secondAccount) (.updateGroup 1 "Home" "red"),
        .writing [.setGroup 1 "Home" "red"] .done) ∧
      (state.layoutOf firstAccount).groups.items = [⟨1, "Work", some "blue", 1⟩] ∧
      (next.layoutOf firstAccount).groups.items = [⟨1, "Home", some "red", 1⟩] ∧
      ¬ LayoutsKept next ∧ ¬ OwnLayoutOnly state (.work .done) next := by
  have replayed : (layoutMachine.replay (State.initial noTables) renamesForeignGroup).any (fun state => decide (
      Exists fun next => layoutMachine.step state (.work .done) = some next ∧
        state.active = some (.edit (some secondAccount) (.updateGroup 1 "Home" "red"),
          .writing [.setGroup 1 "Home" "red"] .done) ∧
        (state.layoutOf firstAccount).groups.items = [⟨1, "Work", some "blue", 1⟩] ∧
        (next.layoutOf firstAccount).groups.items = [⟨1, "Home", some "red", 1⟩] ∧
        (next.layouts firstAccount).groups.items = [⟨1, "Work", some "blue", 1⟩])) = true := by
    decide +kernel
  rcases Machine.exists_run replayed with ⟨state, run, next, moved, active, before, after, expected⟩
  refine ⟨state, next, run, moved, active, before, after, ?_, ?_⟩
  · intro kept
    have same := kept.faithful firstAccount
    rw [same, expected] at after
    exact absurd after (by decide)
  · intro own
    have writes : Writes state (.work .done) (some secondAccount) :=
      ⟨_, _, _, _, _, active, rfl, rfl⟩
    have same := own.others _ writes firstAccount (by decide)
    rw [same, before] at after
    exact absurd after (by decide)

end FolderLayout
end TelegramDrive
