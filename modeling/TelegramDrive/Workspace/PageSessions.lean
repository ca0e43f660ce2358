import TelegramDrive.Workspace.Account
import TelegramDrive.Workspace.LibraryPages

namespace TelegramDrive
namespace Workspace
namespace Pagination

/-!
# Page sessions

A reader without a cursor opens a session with a connection of its own, on which a
read transaction begins.  The transaction sees the database as it is at its first
statement, whatever is written later.  Readers with a cursor find the session in a
registry; the session lives as long as a reader holds it, also outside the registry.
Each step takes one lock once.

Times are milliseconds.  What the guard of the account answers, which identifier is
drawn, and what SQLite fails at, are decided by the events.
-/

abbrev SessionId : Type := List Char

section Model

variable (SqlValue : Type)

structure Session where
  account : AccountGuard
  created : Nat
  touched : Nat
  offset : Nat
  snapshot : Option (Database SqlValue)

/-- `WorkspacePage` -/
structure Page where
  snapshot : Snapshot
  nextCursor : Option (List Char)
  totalFiles : Nat

/-- Where a reader is.  Before the lookup it sweeps the registry. -/
inductive Stage
  | sweeping
  | looking
  | paging (id : SessionId) (expected : Nat)
  | discarding (id : SessionId) (result : Except String Page)
  | done (result : Except String Page)

structure Reader where
  account : AccountGuard
  cursor : Option (List Char)
  limit : Nat
  stage : Stage

/-- A page that was read, with the session, the offset and the guard of its reader, and the
database that the transaction of the session saw.  The code keeps no such record. -/
structure PageRead where
  cursor : Option (List Char)
  account : AccountGuard
  id : SessionId
  offset : Nat
  limit : Nat
  page : Page
  database : Database SqlValue

structure State where
  database : Database SqlValue
  sessions : SessionId -> Option (Session SqlValue)
  registry : List SessionId
  readers : List Reader
  history : List (PageRead SqlValue)

end Model

section Sessions

variable {SqlValue : Type}

def idleLimit : Nat := 30000

def ageLimit : Nat := 300000

def maxSessions : Nat := 8

def Session.expired (session : Session SqlValue) (now : Nat) : Bool :=
  decide (now - session.created ≥ ageLimit ∨ now - session.created - session.touched ≥ idleLimit)

inductive Event (SqlValue : Type)
  -- the application or another process writes
  | write (database : Database SqlValue)
  -- `read` is called, with this guard
  | call (account : AccountGuard) (cursor : Option (List Char)) (limit : Nat)
  -- `expire`, by a reader or by the cleaner
  | sweep (index : Nat) (now : Nat)
  | clean (now : Nat)
  -- a session is found by a cursor
  | find (index : Nat)
  -- a session is opened; the registry may give up its oldest
  | «open» (index : Nat) (id : SessionId) (now : Nat) (oldest : Option SessionId)
  -- opening fails
  | fail (index : Nat) (error : String)
  -- a page is read under the lock of the session
  | page (index : Nat) (now : Nat) (before after : Except String Unit) (sqlite : Except String Unit)
  | discard (index : Nat)

def invalidPage : String := "WORKSPACE_PAGE_INVALID: Reload the library"

def expiredPage : String := "WORKSPACE_PAGE_EXPIRED: Reload the library"

def otherPage : String := "ACCOUNT_CHANGED: Workspace page belongs to another session"

namespace State

variable [LinearOrder SqlValue]

def setStage (state : State SqlValue) (index : Nat) (reader : Reader) (stage : Stage) : State SqlValue :=
  { state with
    readers := state.readers.set index { reader with
      stage := stage } }

/-- `expire`: the sessions that are still registered and not expired remain. -/
def expire (state : State SqlValue) (now : Nat) : State SqlValue :=
  { state with
    registry := state.registry.filter fun id =>
      match state.sessions id with
      | none => true
      | some session => !session.expired now }

def unregister (state : State SqlValue) (id : SessionId) : State SqlValue :=
  { state with
    registry := state.registry.filter fun other => decide (other ≠ id) }

local instance lawfulChars : LawfulBEq (List Char) := inferInstance

/-- The reader looks up the session of its cursor. -/
def find (state : State SqlValue) (index : Nat) (reader : Reader) (cursor : List Char) : State SqlValue :=
  match splitOnce cursor with
  | none => state.setStage index reader (.done (.error invalidPage))
  | some (id, text) =>
    match parseUsize text with
    | none => state.setStage index reader (.done (.error invalidPage))
    | some offset =>
      if id ∈ state.registry then
        match state.sessions id with
        | none => state.setStage index reader (.done (.error expiredPage))
        | some session =>
          if session.account.sameSession reader.account then
            state.setStage index reader (.paging id offset)
          else state.setStage index reader (.discarding id (.error otherPage))
      else state.setStage index reader (.done (.error expiredPage))

/-- The session that the registry gives up for a new one, which is one of the oldest. -/
def gives (state : State SqlValue) (oldest : Option SessionId) : Bool :=
  match oldest with
  | none => decide (state.registry.length < maxSessions)
  | some id => decide (state.registry.length ≥ maxSessions) && state.registry.contains id &&
      state.registry.all fun other =>
        match state.sessions id, state.sessions other with
        | some one, some two => decide (one.created ≤ two.created)
        | _, _ => true

/-- A new session: its transaction has begun, but has read nothing. -/
def openSession (state : State SqlValue) (index : Nat) (reader : Reader) (id : SessionId) (now : Nat)
    (oldest : Option SessionId) : State SqlValue :=
  { state.setStage index reader (.paging id 0) with
    sessions := Function.update state.sessions id (some ⟨reader.account, now, 0, 0, none⟩)
    registry := id :: state.registry.filter fun other => decide (some other ≠ oldest) }

/-- The reader ends with a result; an error or the last page discards the session. -/
def finish (state : State SqlValue) (index : Nat) (reader : Reader) (id : SessionId)
    (result : Except String Page) : State SqlValue :=
  match result with
  | .error error => state.setStage index reader (.discarding id (.error error))
  | .ok page =>
    if page.nextCursor.isNone then state.setStage index reader (.discarding id (.ok page))
    else state.setStage index reader (.done (.ok page))

def setSession (state : State SqlValue) (id : SessionId) (session : Session SqlValue) : State SqlValue :=
  { state with
    sessions := Function.update state.sessions id (some session) }

def record (state : State SqlValue) (read : PageRead SqlValue) : State SqlValue :=
  { state with
    history := state.history ++ [read] }

/-- The part of `read` under the lock of the session. -/
def readPage (state : State SqlValue) (index : Nat) (reader : Reader) (id : SessionId) (expected : Nat)
    (session : Session SqlValue) (now : Nat) (before after sqlite : Except String Unit) : State SqlValue :=
  match before with
  | .error error => state.finish index reader id (.error error)
  | .ok _ =>
    if session.offset ≠ expected then state.finish index reader id (.error invalidPage)
    else if session.expired now then state.finish index reader id (.error expiredPage)
    else
      match sqlite with
      | .error error => state.finish index reader id (.error error)
      | .ok _ =>
        let seen := session.snapshot.getD state.database
        match seen.snapshotPage session.account.owner session.offset reader.limit with
        | .error error =>
          (state.setSession id { session with
            snapshot := some seen }).finish index reader id (.error error)
        | .ok (snapshot, total) =>
          let offset := session.offset + snapshot.files.length
          match after with
          | .error error =>
            (state.setSession id { session with
              snapshot := some seen
              offset := offset }).finish index reader id (.error error)
          | .ok _ =>
            let page : Page := ⟨snapshot, if offset < total then some (formatCursor id offset) else none,
              total⟩
            ((state.setSession id { session with
              snapshot := some seen
              offset := offset
              touched := now - session.created }).finish index reader id (.ok page)).record
                ⟨reader.cursor, reader.account, id, session.offset, reader.limit, page, seen⟩

/-- One step.  An identifier that is drawn is a new one and has no colon. -/
def step (state : State SqlValue) : Event SqlValue -> Option (State SqlValue)
  | .write database => some { state with
      database := database }
  | .call account cursor limit =>
    if 1 ≤ limit ∧ limit ≤ 512 then some { state with
      readers := state.readers ++ [⟨account, cursor, limit, .sweeping⟩] }
    else none
  | .sweep index now =>
    match state.readers[index]? with
    | some ⟨account, cursor, limit, .sweeping⟩ =>
      some ((state.expire now).setStage index ⟨account, cursor, limit, .sweeping⟩ .looking)
    | _ => none
  | .clean now => some (state.expire now)
  | .find index =>
    match state.readers[index]? with
    | some ⟨account, some cursor, limit, .looking⟩ =>
      some (state.find index ⟨account, some cursor, limit, .looking⟩ cursor)
    | _ => none
  | .open index id now oldest =>
    match state.readers[index]? with
    | some ⟨account, none, limit, .looking⟩ =>
      if (state.sessions id).isNone && !id.contains ':' && state.gives oldest then
        some (state.openSession index ⟨account, none, limit, .looking⟩ id now oldest)
      else none
    | _ => none
  | .fail index error =>
    match state.readers[index]? with
    | some ⟨account, none, limit, .looking⟩ =>
      some (state.setStage index ⟨account, none, limit, .looking⟩ (.done (.error error)))
    | _ => none
  | .page index now before after sqlite =>
    match state.readers[index]? with
    | some ⟨account, cursor, limit, .paging id expected⟩ =>
      match state.sessions id with
      | none => none
      | some session =>
        some (state.readPage index ⟨account, cursor, limit, .paging id expected⟩ id expected session now
          before after sqlite)
    | _ => none
  | .discard index =>
    match state.readers[index]? with
    | some ⟨account, cursor, limit, .discarding id result⟩ =>
      some ((state.unregister id).setStage index ⟨account, cursor, limit, .discarding id result⟩ (.done result))
    | _ => none

/-- The application has just started. -/
def start (database : Database SqlValue) : State SqlValue where
  database := database
  sessions := fun _ => none
  registry := []
  readers := []
  history := []

end State

end Sessions

end Pagination
end Workspace
end TelegramDrive
