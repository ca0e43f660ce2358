import TelegramDrive.FolderLayout.Tables
import TelegramDrive.Library.Machine

namespace TelegramDrive
namespace FolderLayout

/-!
# Whose layout the shared tables hold

A marker file names the account whose layout the shared tables hold.  An account that is
switched out has its layout in the database of its own workspace.

Every command that touches the tables runs under the mutex of their connection, so one
command is active at a time.  It goes from one access of a file or of a database to the
next, and any of these can fail, also after it took effect.  The process can stop between
any two of them.  Commands wait for the mutex, so the session in which one was issued can
be over when it runs.
-/

/-- An account that can be signed in; `Store::open` refuses every other owner. -/
structure Account where
  id : Int
  positive : 0 < id
deriving DecidableEq

namespace Account

theorem eq_of_id {one two : Account} (same : one.id = two.id) : one = two := by
  cases one
  cases two
  cases same
  rfl

def ofOwner? (owner : Int) : Option Account :=
  if positive : 0 < owner then some ⟨owner, positive⟩ else none

theorem ofOwner?_eq_some {owner : Int} {account : Account} (known : ofOwner? owner = some account) :
    account.id = owner := by
  unfold ofOwner? at known
  split at known
  · cases known
    rfl
  · cases known

end Account

/-- The marker while the tables belong to nobody. -/
def noOwner : Int := 0

theorem Account.ne_noOwner (account : Account) : noOwner ≠ account.id := ne_of_lt account.positive

/-! ## Commands and where they are -/

/-- A command with the account of which it read the session, where it did. -/
inductive Command
  | getEnrichedFolders (owner : Option Account)
  | getGroups (owner : Option Account)
  -- `cmd_scan_folders` before and after it reads the dialogs
  | knownFolders (owner : Account)
  | scanFolders (owner : Account) (folders : List FolderMetadata)
  -- the edit commands do not read the session in which they are issued
  | edit (session : Option Account) (edit : Edit)
  | signOut (signingOut : Option Account)
deriving DecidableEq

/-- The account for which `prepare_layout` is called. -/
def Command.scope : Command -> Option Account
  | .getEnrichedFolders owner | .getGroups owner => owner
  | .knownFolders owner | .scanFolders owner _ => some owner
  | .edit _ _ | .signOut _ => none

/-- The session in which a command that changes the layout was issued. -/
def Command.session : Command -> Option Account
  | .edit session _ => session
  | .scanFolders owner _ => some owner
  | _ => none

inductive Result
  | folders (folders : List FolderMetadata)
  | groups (groups : List FolderGroup)
  | known (ids : List Int)
  | done
  | failed
deriving DecidableEq

/-- What the marker is written for. -/
inductive Marking
  | swap (owner : Account)
  | claim (owner : Account)
  | clear
deriving DecidableEq

def Marking.value : Marking -> Int
  | .swap _ | .clear => noOwner
  | .claim owner => owner.id

inductive Point
  | validating (owner : Account)
  -- `activate`
  | reading (owner : Account)
  | saving (previous : Int) (owner : Account)
  | loading (owner : Account)
  -- `write_marker`
  | staging (marking : Marking)
  | moving (marking : Marking)
  -- `write_tables`, for the account that is to be marked then
  | beginning (layout : SavedLayout) (owner : Option Account)
  | replacing (statements : List Statement) (owner : Option Account)
  | rollingBack
  -- `readable_by`, and what follows it
  | showing (owner : Option Account)
  | querying
  | merging
  | editing
  | writing (statements : List Statement) (result : Result)
  -- `deactivate`
  | leaving (signingOut : Option Account)
  | leavingUnowned
  | settingAside (owner : Int)
deriving DecidableEq

def Command.first : Command -> Point
  | .getEnrichedFolders (some owner) | .getGroups (some owner) => .reading owner
  | .getEnrichedFolders none | .getGroups none => .showing none
  | .knownFolders owner | .scanFolders owner _ => .validating owner
  | .edit _ _ => .editing
  | .signOut signingOut => .leaving signingOut

/-- Where a step leaves its command. -/
inductive Stage
  | goes (point : Point)
  | ends (result : Result)
deriving DecidableEq

/-- How an access goes.  A scan is told the order in which its hash map is visited. -/
inductive Reply
  | done
  | failed
  | failedLate
  | rolledBack
  | visited (ids : List Int)
deriving DecidableEq

/-! ## The state -/

/-- The connection sees its own open transaction; a stopped process loses it. -/
structure Database where
  tables : Tables
  durable : Tables
  transaction : Bool
deriving DecidableEq

namespace Database

def execute (database : Database) (statement : Statement) : Option Database :=
  (database.tables.run statement).map fun tables =>
    if database.transaction then { database with tables := tables } else ⟨tables, tables, false⟩

def begin (database : Database) : Database := { database with transaction := true }
def commit (database : Database) : Database := ⟨database.tables, database.tables, false⟩
def rollback (database : Database) : Database := ⟨database.durable, database.durable, false⟩

end Database

/-- `layouts` is no part of the program.  It is the layout that every account should have:
the statements of its own commands change it, and taking over the layout that an earlier
release left without a marker sets it. -/
structure State where
  session : Option Account
  marker : Option Int
  staged : Option Int
  database : Database
  records : Account -> Option SavedLayout
  waiting : List Command
  active : Option (Command × Point)
  results : List (Command × Result)
  layouts : Account -> SavedLayout

/-- A first start with this release, on the tables that an earlier one left. -/
def State.initial (tables : Tables) : State :=
  ⟨none, none, none, ⟨tables, tables, false⟩, fun _ => none, [], none, [], fun _ => .empty⟩

def readableBy : Option Int -> Option Account -> Bool
  | none, _ => true
  | some current, some owner => current == owner.id
  | some _, none => false

namespace State

/-- A marker that cannot be read counts as missing. -/
def readMarker (state : State) : Reply -> Option (Option Int)
  | .done => some state.marker
  | .failed => some none
  | _ => none

/-- An access that leads to the next one, or fails with or without its effect. -/
def access (state changed : State) (stage : Stage) : Reply -> Option (State × Stage)
  | .done => some (changed, stage)
  | .failed => some (state, .ends .failed)
  | .failedLate => some (changed, .ends .failed)
  | _ => none

/-- `save_for` -/
def saveFor (state : State) (account : Account) : State :=
  { state with records := Function.update state.records account (some state.database.tables.layout) }

/-- The layout without a marker becomes the one of an account. -/
def expectTables (state : State) (account : Account) : State :=
  if state.marker = none then
    { state with layouts := Function.update state.layouts account state.database.tables.layout }
  else state

/-- A statement of a session changes the layout that its account should have. -/
def expectStatement (state : State) (session : Option Account) (statement : Statement) : State :=
  match session with
  | some account =>
    let layout := state.layouts account
    { state with layouts := Function.update state.layouts account ((layout.run statement).getD layout) }
  | none => state

def renamed (state : State) : Marking -> State
  | .claim owner => { state.expectTables owner with marker := state.staged, staged := none }
  | _ => { state with marker := state.staged, staged := none }

def afterRename : Marking -> Point
  | .swap owner => .loading owner
  | .claim owner => .showing (some owner)
  | .clear => .beginning .empty none

/-- After `write_tables`. -/
def afterReplacing : Option Account -> Stage
  | some owner => .goes (.staging (.claim owner))
  | none => .ends .done

/-- After `prepare_layout`. -/
def afterShowing (readable : Bool) : Command -> Option Stage
  | .getEnrichedFolders _ => some (if readable then .goes .querying else .ends (.folders []))
  | .getGroups _ => some (if readable then .goes .querying else .ends (.groups []))
  | .knownFolders _ => some (.goes .querying)
  | .scanFolders _ _ => some (.goes .merging)
  | _ => none

def query (layout : SavedLayout) : Command -> Option Result
  | .getEnrichedFolders _ => some (.folders (enrichedFolders layout))
  | .getGroups _ =>
    match listGroups layout with
    | some groups => some (.groups groups)
    | none => some .failed
  | .knownFolders _ => some (.known layout.folders.keys)
  | _ => none

/-- One access of the active command. -/
def work (state : State) (command : Command) (point : Point) (reply : Reply) : Option (State × Stage) :=
  match point with
  | .validating owner =>
    match reply with
    | .done => if state.session = some owner then some (state, .goes (.reading owner)) else none
    | .failed => some (state, .ends .failed)
    | _ => none
  | .reading owner =>
    (state.readMarker reply).map fun marker =>
      match marker with
      | none => (state, .goes (.staging (.claim owner)))
      | some current =>
        if current = owner.id then (state, .goes (.showing (some owner)))
        else if current = noOwner then (state, .goes (.staging (.swap owner)))
        else (state, .goes (.saving current owner))
  | .saving previous owner =>
    match Account.ofOwner? previous with
    | some account => state.access (state.saveFor account) (.goes (.staging (.swap owner))) reply
    | none => some (state, .ends .failed)
  | .loading owner =>
    match reply with
    | .done => some (state, .goes (.beginning ((state.records owner).getD .empty) (some owner)))
    | .failed => some (state, .ends .failed)
    | _ => none
  | .staging marking =>
    -- a failed write can leave anything in the staged file
    { state with staged := none }.access
      { state with staged := some marking.value } (.goes (.moving marking)) reply
  | .moving marking => state.access (state.renamed marking) (.goes (afterRename marking)) reply
  | .beginning layout owner =>
    if state.database.transaction then some (state, .ends .failed)
    else state.access { state with database := state.database.begin }
      (.goes (.replacing layout.replaceStatements owner)) reply
  | .replacing [] owner =>
    match reply with
    | .rolledBack => some ({ state with database := state.database.rollback }, .ends .failed)
    | reply => state.access { state with database := state.database.commit } (afterReplacing owner) reply
  | .replacing (statement :: rest) owner =>
    match reply with
    | .done =>
      match state.database.execute statement with
      | some database => some ({ state with database := database }, .goes (.replacing rest owner))
      | none => some (state, .goes .rollingBack)
    | .failed => some (state, .goes .rollingBack)
    | .rolledBack => some ({ state with database := state.database.rollback }, .goes .rollingBack)
    | _ => none
  | .rollingBack => state.access { state with database := state.database.rollback } (.ends .failed) reply
  | .showing owner =>
    (state.readMarker reply).bind fun marker =>
      (afterShowing (readableBy marker owner) command).map fun stage => (state, stage)
  | .querying =>
    match reply with
    | .done => (query state.database.tables.layout command).map fun result => (state, .ends result)
    | .failed => some (state, .ends .failed)
    | _ => none
  | .merging =>
    match command, reply with
    | .scanFolders _ folders, .visited ids =>
      let layout := state.database.tables.layout
      let plan := scanStatements layout.folders folders ids
      if ids.Perm layout.folders.keys then
        some (state, .goes (.writing (plan.1.map Prod.snd ++ plan.2)
          (.folders (scannedFolders layout.groups (plan.1.map Prod.fst)))))
      else none
    | .scanFolders _ _, .failed => some (state, .ends .failed)
    | _, _ => none
  | .editing =>
    match command, reply with
    | .edit _ edit, .done => some (state, .goes (.writing (edit.statements state.database.tables) .done))
    | .edit _ _, .failed => some (state, .ends .failed)
    | _, _ => none
  | .writing [] result =>
    match reply with
    | .done => some (state, .ends result)
    | .failed => some (state, .ends .failed)
    | _ => none
  | .writing (statement :: rest) result =>
    match state.database.execute statement with
    | some database =>
      state.access ({ state with database := database }.expectStatement command.session statement)
        (.goes (.writing rest result)) reply
    | none => some (state, .ends .failed)
  | .leaving signingOut =>
    (state.readMarker reply).map fun marker =>
      match marker, signingOut with
      | some owner, _ =>
        (state, .goes (if owner = noOwner then .leavingUnowned else .settingAside owner))
      | none, some account => (state, .goes (.settingAside account.id))
      | none, none => (state, .goes .leavingUnowned)
  | .leavingUnowned =>
    (state.readMarker reply).map fun marker =>
      match marker with
      | none => (state, .ends .done)
      | some _ => (state, .goes (.staging .clear))
  | .settingAside owner =>
    match Account.ofOwner? owner with
    | some account =>
      state.access ((state.saveFor account).expectTables account) (.goes (.staging .clear)) reply
    | none => some (state, .ends .failed)

/-- The active command at its next access, or its result. -/
def settle (command : Command) : State × Stage -> State
  | (state, .goes point) => { state with active := some (command, point) }
  | (state, .ends result) => { state with active := none, results := state.results ++ [(command, result)] }

/-- A command is issued with the account of the moment, or with none if it cannot be read. -/
def issues (state : State) : Command -> Bool
  | .getEnrichedFolders owner | .getGroups owner | .signOut owner => owner == none || owner == state.session
  | .knownFolders owner | .scanFolders owner _ => state.session == some owner
  | .edit session _ => session == state.session

end State

/-! ## The machine -/

inductive Event
  | signIn (account : Account)
  | signOut
  | issue (command : Command)
  | start (index : Nat)
  | work (reply : Reply)
  | crash
deriving DecidableEq

def State.act (state : State) : Event -> Option State
  | .signIn account => some { state with session := some account }
  | .signOut => some { state with session := none }
  | .issue command =>
    if state.issues command then some { state with waiting := state.waiting ++ [command] } else none
  | .start index =>
    match state.active, state.waiting[index]? with
    | none, some command =>
      some { state with waiting := state.waiting.eraseIdx index, active := some (command, command.first) }
    | _, _ => none
  | .work reply =>
    match state.active with
    | some (command, point) => (state.work command point reply).map (settle command)
    | none => none
  | .crash => some { state with database := state.database.rollback, waiting := [], active := none }

def layoutMachine : Machine State Event := ⟨State.act⟩

end FolderLayout
end TelegramDrive
