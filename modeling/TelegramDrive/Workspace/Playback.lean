import Mathlib.Algebra.Group.Int.Defs
import Mathlib.Algebra.GroupWithZero.Nat
import TelegramDrive.Library.BinaryOrder
import TelegramDrive.Library.Machine
import TelegramDrive.Library.Results
import TelegramDrive.SyncEngine.Policy

namespace TelegramDrive
namespace Workspace
namespace Playback

/-!
# The playback history

The store keeps a record for each file that was played, a queue, and the preferences
of the player.  Every mutation is one transaction: it changes all of what it changes
or nothing.  A record is written with the reading of the clock, and when there are
too many records those written longest ago go.

A volume and a speed are finite numbers or none.
-/

def maxHistory : Nat := 500

def maxQueue : Nat := 100

def maxBookmarks : Nat := 100

structure PlaybackFile where
  folderId : Option Int
  messageId : Int
  name : String
  size : Nat
  mimeType : Option String
  encryptionState : String
deriving DecidableEq

structure Bookmark where
  positionMs : Nat
  label : List Char
deriving DecidableEq

structure PlaybackRecord where
  mediaId : String
  ownerId : String
  file : PlaybackFile
  positionMs : Nat
  durationMs : Nat
  completed : Bool
  volume : Rat
  speed : Rat
  updatedAt : Int
  bookmarks : List Bookmark
deriving DecidableEq

structure PlaybackPreferences where
  volume : Rat
  speed : Rat
deriving DecidableEq

def PlaybackPreferences.default : PlaybackPreferences := ⟨1, 1⟩

inductive PlaybackMutation
  | progress (file : PlaybackFile) (positionMs durationMs : Nat) (volume speed : Option Rat)
  | finish (file : PlaybackFile) (durationMs : Nat)
  | restart (file : PlaybackFile)
  | bookmark (file : PlaybackFile) (positionMs : Nat) (label : List Char)
  | removeBookmark (file : PlaybackFile) (positionMs : Nat)
  | forget (file : PlaybackFile)
  | enqueue (files : List PlaybackFile)
  | removeQueue (file : PlaybackFile)
  | clearQueue

def mediaId (owner : Int) (file : PlaybackFile) : String :=
  toString owner ++ ":" ++ (file.folderId.elim "saved" toString) ++ ":" ++ toString file.messageId

def validateFile (file : PlaybackFile) : Except String Unit :=
  if file.messageId ≤ 0 ∨ file.messageId > 2 ^ 31 - 1 ∨ (file.folderId.any fun id => decide (id ≤ 0)) then
    .error "Invalid playback file identity"
  else if SyncEngine.trim file.name.toList = [] ∨ file.name.utf8ByteSize > 4096 ∨
      (file.mimeType.any fun mime => decide (mime.utf8ByteSize > 200)) then
    .error "Invalid playback file metadata"
  else if file.encryptionState ≠ "plain" then
    .error "PLAYBACK_HISTORY_UNAVAILABLE: History is unavailable for protected media"
  else .ok ()

/-! ## The store -/

/-- A row of the kind `playback`. -/
structure Row where
  id : String
  updated : Int
  value : PlaybackRecord
deriving DecidableEq

/-- The part of the store that belongs to playback. -/
structure Store where
  owner : Int
  playback : List Row
  queue : Option (List PlaybackFile)
  preferences : Option PlaybackPreferences
deriving DecidableEq

/-- The readings of the clock in one mutation: for the record, and for its row. -/
structure Clock where
  recorded : Int
  stored : Int

/-- `ORDER BY updated DESC, id` -/
def Row.Before (one two : Row) : Prop :=
  two.updated < one.updated ∨ one.updated = two.updated ∧ TextLe one.id two.id

instance : DecidableRel Row.Before :=
  fun one two => inferInstanceAs (Decidable (two.updated < one.updated ∨ _ ∧ _))

namespace Store

/-- The record of this identifier. -/
def find (store : Store) (id : String) : Option PlaybackRecord :=
  (store.playback.find? fun row => decide (row.id = id)).map Row.value

def put (store : Store) (id : String) (value : PlaybackRecord) (updated : Int) : Store :=
  { store with
    playback := store.playback.filter (fun row => decide (row.id ≠ id)) ++ [⟨id, updated, value⟩] }

def remove (store : Store) (id : String) : Store :=
  { store with
    playback := store.playback.filter fun row => decide (row.id ≠ id) }

/-- The rows in the order in which `records` reads them. -/
def records (store : Store) : List Row := store.playback.insertionSort Row.Before

/-- `record` -/
def record (store : Store) (file : PlaybackFile) (clock : Clock) : Except String PlaybackRecord := do
  validateFile file
  let preferences := store.preferences.getD .default
  let value := (store.find (mediaId store.owner file)).getD {
    mediaId := mediaId store.owner file
    ownerId := toString store.owner
    file := file
    positionMs := 0
    durationMs := 0
    completed := false
    volume := preferences.volume
    speed := preferences.speed
    updatedAt := 0
    bookmarks := [] }
  return { value with
    file := file
    updatedAt := clock.recorded }

/-- `save` -/
def save (store : Store) (value : PlaybackRecord) (clock : Clock) : Store :=
  let written := store.put value.mediaId value clock.stored
  (written.records.drop maxHistory).foldl (fun store old => store.remove old.value.mediaId) written

/-- A position within a duration that is known. -/
def clamp (positionMs durationMs : Nat) : Nat := if durationMs > 0 then min positionMs durationMs else positionMs

/-- A volume and a speed that the player has. -/
def playable (volume speed : Option Rat) : Option PlaybackPreferences :=
  match volume, speed with
  | some volume, some speed =>
    if 0 ≤ volume ∧ volume ≤ 1 ∧ (1 : Rat) / 2 ≤ speed ∧ speed ≤ 2 then some ⟨volume, speed⟩ else none
  | _, _ => none

/-- What `Progress` makes of a record. -/
def progressed (value : PlaybackRecord) (positionMs durationMs : Nat) (preferences : PlaybackPreferences) :
    PlaybackRecord :=
  let duration := if durationMs > 0 then durationMs else value.durationMs
  { value with
    durationMs := duration
    positionMs := if value.completed then value.positionMs else clamp positionMs duration
    volume := preferences.volume
    speed := preferences.speed }

/-- What `Finish` makes of a record. -/
def finished (value : PlaybackRecord) (durationMs : Nat) : PlaybackRecord :=
  let duration := if durationMs > 0 then durationMs else value.durationMs
  { value with
    completed := true
    durationMs := duration
    positionMs := if duration > 0 then duration else value.positionMs }

def restarted (value : PlaybackRecord) : PlaybackRecord :=
  { value with
    completed := false
    positionMs := 0 }

/-- The bookmarks beside a position. -/
def otherBookmarks (value : PlaybackRecord) (positionMs : Nat) : List Bookmark :=
  value.bookmarks.filter fun bookmark => decide (bookmark.positionMs ≠ positionMs)

/-- `sort_by_key`, by the position -/
def sortBookmarks (bookmarks : List Bookmark) : List Bookmark :=
  bookmarks.insertionSort fun one two => one.positionMs ≤ two.positionMs

def bookmarked (value : PlaybackRecord) (positionMs : Nat) (label : List Char) : Except String PlaybackRecord :=
  let position := clamp positionMs value.durationMs
  if (otherBookmarks value position).length ≥ maxBookmarks then .error "This file already has 100 bookmarks"
  else .ok { value with
    bookmarks := sortBookmarks (otherBookmarks value position ++ [⟨position, label⟩]) }

/-- One file of `Enqueue`. -/
def enqueueFile (owner : Int) (queue : List PlaybackFile) (file : PlaybackFile) :
    Except String (List PlaybackFile) := do
  validateFile file
  return if queue.any fun item => decide (mediaId owner item = mediaId owner file) then queue
    else queue ++ [file]

/-- The action of a mutation inside its transaction. -/
def act (store : Store) (clock : Clock) : PlaybackMutation -> Except String Store
  | .progress file positionMs durationMs volume speed =>
    match playable volume speed with
    | none => .error "Invalid playback volume or speed"
    | some preferences => do
        let value <- store.record file clock
        let saved := store.save (progressed value positionMs durationMs preferences) clock
        return { saved with
          preferences := some preferences }
  | .finish file durationMs => do
      let value <- store.record file clock
      return store.save (finished value durationMs) clock
  | .restart file => do
      let value <- store.record file clock
      return store.save (restarted value) clock
  | .bookmark file positionMs label =>
    let label := SyncEngine.trim label
    if label = [] ∨ label.length > 100 then .error "Bookmarks need a label of 1–100 characters"
    else do
      let value <- store.record file clock
      let value <- bookmarked value positionMs label
      return store.save value clock
  | .removeBookmark file positionMs => do
      let value <- store.record file clock
      let kept := otherBookmarks value positionMs
      return store.save { value with
        bookmarks := kept } clock
  | .forget file => do
      validateFile file
      return store.remove (mediaId store.owner file)
  | .enqueue files =>
    if files.length > maxQueue then .error "Choose up to 100 queue items"
    else do
      let queue <- files.foldlM (enqueueFile store.owner) (store.queue.getD [])
      if queue.length > maxQueue then .error "Playback queue is limited to 100 files"
      else return { store with
        queue := some queue }
  | .removeQueue file => do
      validateFile file
      let queue := (store.queue.getD []).filter fun item =>
        decide (mediaId store.owner item ≠ mediaId store.owner file)
      return { store with
        queue := some queue }
  | .clearQueue => .ok { store with
      queue := none }

/-- `mutate`: a transaction, of which a statement or the commit may fail. -/
def mutate (store : Store) (mutation : PlaybackMutation) (clock : Clock) (sqlite : Except String Unit) :
    Store × Except String Unit :=
  match store.act clock mutation, sqlite with
  | .error error, _ => (store, .error error)
  | .ok _, .error error => (store, .error error)
  | .ok changed, .ok _ => (changed, .ok ())

/-- The store of an account before anything is played. -/
def empty (owner : Int) : Store := ⟨owner, [], none, none⟩

end Store

/-- A mutation, the readings of the clock in it, and what SQLite fails at. -/
structure Event where
  mutation : PlaybackMutation
  clock : Clock
  sqlite : Except String Unit

/-- The machine of the playback store. -/
def machine : Machine Store Event :=
  ⟨fun store event => some (store.mutate event.mutation event.clock event.sqlite).1⟩

end Playback
end Workspace
end TelegramDrive
