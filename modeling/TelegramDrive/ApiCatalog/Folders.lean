import TelegramDrive.SyncEngine.Policy
import TelegramDrive.Workspace.Account

namespace TelegramDrive
namespace ApiCatalog

/-!
# The folder catalogue of the local API

One list of folders is kept for each account for a few minutes.  `folders` returns the
kept list, or walks the dialogs of the account page by page and keeps what it found.
The folder routes of the REST interface forget the kept list and then change Telegram;
the WebDAV operations change Telegram and then forget it.

Every atomic operation between two awaits, and between two lock regions, is a step of
its own.  The calls and the requests of a run stay in its state after they have ended,
each with its result and the moments that matter to it.
-/

open Workspace (AccountGuard Session)

/-! ## Folders among the dialogs -/

structure Channel where
  id : Int
  title : String
deriving DecidableEq

/-- `id` is absent for Saved Messages. -/
structure Folder where
  id : Option Int
  name : String
deriving DecidableEq

/-- `str::replace` with the empty text: every match from the left is removed. -/
def removeAll (pattern : List Char) : Nat -> List Char -> List Char
  | _, [] => []
  | skip + 1, _ :: rest => removeAll pattern skip rest
  | 0, character :: rest =>
    if pattern.isPrefixOf (character :: rest) then removeAll pattern (pattern.length - 1) rest
    else character :: removeAll pattern 0 rest

def folderDisplayName (title : String) : String :=
  String.ofList (SyncEngine.trim (removeAll "[td]".toList 0 (removeAll "[TD]".toList 0
    (removeAll " [td]".toList 0 (removeAll " [TD]".toList 0 title.toList)))))

/-- `title.to_lowercase().contains("[td]")`: no other character has `t` or `d` in its
lower case. -/
def marked (title : String) : Bool :=
  (title.toList.map Char.toLower).tails.any fun rest => "[td]".toList.isPrefixOf rest

/-- The folders among the dialogs of a walk, in their order. -/
def markedFolders (dialogs : List Channel) : List Folder :=
  (dialogs.filter fun channel => marked channel.title).map fun channel =>
    ⟨some channel.id, folderDisplayName channel.title⟩

/-- A legacy folder is admitted only when its id is among the dialogs; a later dialog
with an id replaces an earlier one. -/
def admitLegacy (dialogs : List Channel) (folders : List Folder) (id : Int) : List Folder :=
  if folders.any fun folder => folder.id == some id then folders
  else
    match dialogs.reverse.find? fun channel => channel.id == id with
    | some channel => folders ++ [⟨some id, folderDisplayName channel.title⟩]
    | none => folders

/-- The folders that `discover_folders` returns. -/
def discovered (dialogs : List Channel) (legacy : List Int) : List Folder :=
  legacy.foldl (admitLegacy dialogs) (markedFolders dialogs)

/-- Saved Messages followed by every Telegram Drive folder. -/
def catalogue (folders : List Folder) : List Folder := ⟨none, "Saved Messages"⟩ :: folders

/-! ## The kept lists -/

/-- A list with where it comes from: the session it was discovered for, the account whose
dialogs were read, and the moment of the first page. -/
structure Discovered where
  folders : List Folder
  scope : AccountGuard
  reader : Int
  begun : Nat
deriving DecidableEq

structure Cached where
  value : Discovered
  expires : Nat
deriving DecidableEq

def catalogTtl : Nat := 240

/-- `CATALOG.folders`. -/
abbrev Catalog := Int -> Option Cached

namespace Catalog

def invalidateCached (catalog : Catalog) (owner : Int) : Catalog :=
  fun account => if account = owner then none else catalog account

/-- `retain`: what has expired is dropped, for every account. -/
def retain (catalog : Catalog) (now : Nat) : Catalog :=
  fun account => (catalog account).filter fun cached => decide (now < cached.expires)

/-- The lookup of `cached_folders` after the expired lists are dropped. -/
def cachedFolders (catalog : Catalog) (guard : AccountGuard) : Option Discovered :=
  ((catalog guard.owner).filter fun cached => cached.value.scope.sameSession guard).map Cached.value

def insert (catalog : Catalog) (list : Discovered) (now : Nat) : Catalog :=
  fun account => if account = list.scope.owner then some ⟨list, now + catalogTtl⟩ else catalog account

end Catalog

/-! ## Calls of `folders` -/

inductive CatalogError
  | notConnected
  | account (error : String)
  | remote (error : String)
deriving DecidableEq

/-- Where a call is. -/
inductive Phase
  | entered
  | looking
  | connecting
  | identifying
  | discovering (reader : Int)
  | opened (reader : Int)
  | walking (reader : Int) (begun : Nat) (dialogs : List Channel)
  | enriching (reader : Int) (begun : Nat) (dialogs : List Channel)
  | caching (reader : Int) (begun : Nat) (folders : List Folder)
  | extending (reader : Int) (begun : Nat) (folders : List Folder)
  | listed (reader : Int) (begun : Nat) (folders : List Folder)
  | inserting (list : Discovered)
  | returned (list : Discovered)
  | failed (error : CatalogError)
deriving DecidableEq

structure Call where
  guard : AccountGuard
  startedAt : Nat
  phase : Phase
deriving DecidableEq

/-- What a step of a call hears. -/
inductive Reply
  | go
  | none
  | error (text : String)
  | user (id : Int)
  | page (dialogs : List Channel) (last : Bool)

/-! ## Folder mutations -/

inductive Surface
  | rest
  | webDav
deriving DecidableEq

inductive Change
  | create (name : String)
  | rename (folder : Int) (name : String)
  | delete (folder : Int)
deriving DecidableEq

namespace Change

/-- What Telegram does: the dialogs of the account afterwards.  A new channel gets its
id from Telegram. -/
def apply (dialogs : List Channel) (fresh : Int) : Change -> List Channel
  | .create name => ⟨fresh, name ++ " [TD]"⟩ :: dialogs
  | .rename folder name =>
    dialogs.map fun channel => if channel.id = folder then ⟨folder, name ++ " [TD]"⟩ else channel
  | .delete folder => dialogs.filter fun channel => decide (channel.id ≠ folder)

end Change

/-- Where a request is.  `applied` and what follows carry the moment Telegram made the
change. -/
inductive Stage
  | opened
  | noted
  | invalidated
  | invoking
  | applied (effect : Nat)
  | replied (effect : Nat)
  | forgetting (effect : Nat)
  | answering (effect : Nat)
  | answered (effect answered : Nat)
  | failed
deriving DecidableEq

/-- A request whose account is opened and whose client belongs to it. -/
structure Request where
  surface : Surface
  guard : AccountGuard
  change : Change
  stage : Stage
deriving DecidableEq

inductive Outcome
  | go
  | fresh (id : Int)
  | fail

/-! ## The state of a run -/

/-- The legacy folder rows, with the account they belong to. -/
structure Layout where
  marker : Option Int
  rows : List Int

structure State where
  session : Session
  now : Nat
  clock : Nat
  remote : Int -> List Channel
  layout : Layout
  catalog : Catalog
  calls : List Call
  requests : List Request

inductive Event
  | tick (seconds : Nat)
  | suspend
  | owner (root : String) (answer : Except String Int)
  | elsewhere (account : Int) (dialogs : List Channel)
  | arrange (layout : Layout)
  | invalidate (account : Int)
  | folders (guard : AccountGuard)
  | call (index : Nat) (reply : Reply)
  | request (surface : Surface) (guard : AccountGuard) (change : Change)
  | advance (index : Nat) (outcome : Outcome)

namespace State

def initial (session : Session) (remote : Int -> List Channel) : State :=
  ⟨session, 0, 0, remote, ⟨none, []⟩, fun _ => none, [], []⟩

/-- Go on when the guard is valid. -/
def guarded (state : State) (guard : AccountGuard) (next : Phase) : Phase :=
  match guard.validate state.session with
  | .ok () => next
  | .error error => .failed (.account error)

/-- The legacy rows that a guard may use. -/
def legacyRows (state : State) (guard : AccountGuard) : List Int :=
  if state.layout.marker = some guard.owner then state.layout.rows else []

/-- One step of a call: the kept lists and the phase afterwards. -/
def step (state : State) (guard : AccountGuard) : Phase -> Reply -> Option (Catalog × Phase)
  | .entered, .go => some (state.catalog, state.guarded guard .looking)
  | .looking, .go =>
    let kept := state.catalog.retain state.now
    match kept.cachedFolders guard with
    | some list => some (kept, .returned list)
    | none => some (kept, .connecting)
  | .connecting, .none => some (state.catalog, .failed .notConnected)
  | .connecting, .go => some (state.catalog, state.guarded guard .identifying)
  | .identifying, .error text => some (state.catalog, .failed (.account text))
  | .identifying, .user id =>
    match guard.validateClientOwner state.session id with
    | .ok () => some (state.catalog, .discovering id)
    | .error error => some (state.catalog, .failed (.account error))
  | .discovering reader, .go => some (state.catalog, state.guarded guard (.opened reader))
  | .opened _, .error text => some (state.catalog, .failed (.remote text))
  | .opened reader, .page dialogs last =>
    if dialogs.all fun channel => channel ∈ state.remote reader then
      some (state.catalog, if last then .enriching reader state.clock dialogs
        else .walking reader state.clock dialogs)
    else none
  | .walking _ _ _, .error text => some (state.catalog, .failed (.remote text))
  | .walking reader begun before, .page dialogs last =>
    if dialogs.all fun channel => channel ∈ state.remote reader then
      some (state.catalog, if last then .enriching reader begun (before ++ dialogs)
        else .walking reader begun (before ++ dialogs))
    else none
  | .enriching _ _ _, .error text => some (state.catalog, .failed (.account text))
  | .enriching reader begun dialogs, .go =>
    some (state.catalog, state.guarded guard
      (.caching reader begun (discovered dialogs (state.legacyRows guard))))
  | .caching reader begun folders, .go =>
    some (state.catalog, state.guarded guard (.extending reader begun folders))
  | .extending reader begun folders, .go =>
    some (state.catalog, state.guarded guard (.listed reader begun folders))
  | .listed reader begun folders, .go =>
    some (state.catalog, state.guarded guard (.inserting ⟨catalogue folders, guard, reader, begun⟩))
  | .inserting list, .go => some (state.catalog.insert list state.now, .returned list)
  | _, _ => none

/-- Go on when the guard is valid. -/
def permitted (state : State) (guard : AccountGuard) (next : Stage) : Stage :=
  match guard.validate state.session with
  | .ok () => next
  | .error _ => .failed

/-- One step of a request: the dialogs of its account, the kept lists and the stage
afterwards.  A failure after the change is a lost reply. -/
def serve (state : State) (request : Request) :
    Stage -> Outcome -> Option (List Channel × Catalog × Stage)
  -- `file_inventory::changed` validates the account, and `invalidate_cached` follows.
  | .opened, .go =>
    match request.surface with
    | .rest => some (state.remote request.guard.owner, state.catalog, state.permitted request.guard .noted)
    | .webDav => some (state.remote request.guard.owner, state.catalog, .invoking)
  | .noted, .go =>
    some (state.remote request.guard.owner, state.catalog.invalidateCached request.guard.owner, .invalidated)
  | .invalidated, .go =>
    match request.change with
    | .delete _ =>
      some (state.remote request.guard.owner, state.catalog, state.permitted request.guard .invoking)
    | _ => some (state.remote request.guard.owner, state.catalog, .invoking)
  | .invoking, .fresh id =>
    some (request.change.apply (state.remote request.guard.owner) id, state.catalog, .applied state.clock)
  | .applied effect, .go =>
    match request.surface with
    | .rest => some (state.remote request.guard.owner, state.catalog, .answering effect)
    | .webDav => some (state.remote request.guard.owner, state.catalog, .replied effect)
  -- `invalidate` of the WebDAV tree does nothing for an account that is not valid now.
  | .replied effect, .go =>
    match request.guard.validate state.session with
    | .ok () => some (state.remote request.guard.owner, state.catalog, .forgetting effect)
    | .error _ => some (state.remote request.guard.owner, state.catalog, .answering effect)
  | .forgetting effect, .go =>
    some (state.remote request.guard.owner, state.catalog.invalidateCached request.guard.owner,
      .answering effect)
  | .answering effect, .go =>
    some (state.remote request.guard.owner, state.catalog,
      state.permitted request.guard (.answered effect state.clock))
  | .opened, .fail => some (state.remote request.guard.owner, state.catalog, .failed)
  | .invoking, .fail => some (state.remote request.guard.owner, state.catalog, .failed)
  | .applied _, .fail => some (state.remote request.guard.owner, state.catalog, .failed)
  | _, _ => none

def act (state : State) : Event -> Option State
  | .tick seconds => some { state with now := state.now + seconds }
  | .suspend =>
    some { state with session := ⟨state.session.generation + 1, fun _ =>
      .error "ACCOUNT_CHANGED: Sign in again to open this workspace"⟩ }
  | .owner root answer =>
    some { state with session := { state.session with
      currentOwner := fun other => if other = root then answer else state.session.currentOwner other } }
  | .elsewhere account dialogs =>
    some { state with remote := fun other => if other = account then dialogs else state.remote other }
  | .arrange layout => some { state with layout := layout }
  | .invalidate account => some { state with catalog := state.catalog.invalidateCached account }
  | .folders guard => some { state with calls := state.calls ++ [⟨guard, state.clock, .entered⟩] }
  | .call index reply =>
    state.calls[index]?.bind fun call =>
      (state.step call.guard call.phase reply).map fun (catalog, phase) =>
        { state with catalog := catalog, calls := state.calls.set index { call with phase := phase } }
  | .request surface guard change =>
    match guard.validate state.session with
    | .ok () => some { state with requests := state.requests ++ [⟨surface, guard, change, .opened⟩] }
    | .error _ => none
  | .advance index outcome =>
    state.requests[index]?.bind fun request =>
      (state.serve request request.stage outcome).map fun (dialogs, catalog, stage) =>
        { state with
          remote := fun account => if account = request.guard.owner then dialogs else state.remote account
          catalog := catalog
          requests := state.requests.set index { request with stage := stage } }

end State

def catalogMachine : Machine State Event where
  step state event := (state.act event).map fun next => { next with clock := state.clock + 1 }

end ApiCatalog
end TelegramDrive
