import TelegramDrive.SettingsSync.RestoredBackups
import TelegramDrive.Library.Machine

namespace TelegramDrive
namespace SettingsSync

open Crypto

/-!
# Devices that sync through one chat

Any number of devices run uploads and downloads against the messages of one chat, the
newest first.  A command takes its steps between those of others, one for each request to
Telegram, and may stop at any of them.  Listing goes backwards in pages.  A request to
delete may take away any of the messages that it names.
-/

structure ChatMessage where
  id : Nat
  text : Text
deriving DecidableEq

def ChatMessage.isSettings (message : ChatMessage) : Bool := messagePrefix.isPrefixOf message.text

/-- The messages that a page may come from. -/
def below (chat : List ChatMessage) : Option Nat -> List ChatMessage
  | none => chat
  | some id => chat.filter fun message => decide (message.id < id)

/-- How far a listing has come: the oldest message of its last page, how many messages it
has seen, and the settings messages among them. -/
structure Cursor where
  before : Option Nat
  seen : Nat
  found : List ChatMessage

def Cursor.start : Cursor := ⟨none, 0, []⟩

/-- One page of `settings_messages`, and whether it is the last one. -/
def Cursor.page (cursor : Cursor) (chat : List ChatMessage) (size : Nat) : Cursor × Bool :=
  let requested := min size (messageScanLimit - cursor.seen)
  let messages := (below chat cursor.before).take requested
  let next : Cursor :=
    { before := (messages.getLast?.map ChatMessage.id).or cursor.before
      seen := cursor.seen + messages.length
      found := cursor.found ++ messages.filter ChatMessage.isSettings }
  (next, decide (messages.length < requested) || decide (messageScanLimit ≤ next.seen))

/-- A backup and the message that it was sent as. -/
structure Sent where
  request : Request
  message : ChatMessage

/-- What is noted of a download: the most recent backup when it started; whether no upload
was in progress then; whether none was until its listing ended; and whether the backup was
within reach of its first page, with no other settings message before it. -/
structure Watch where
  started : Option Sent
  quiet : Bool
  calm : Bool
  reach : Bool

inductive Stage
  -- an upload
  | collecting (request : Request) (text : Text) (cursor : Cursor)
  | sending (request : Request) (text : Text) (old : List Nat)
  | deleting (own : Nat) (old : List Nat)
  -- a download
  | searching (passphrase : Text) (cursor : Cursor) (watch : Watch)
  | opening (passphrase : Text) (first : Option Text) (watch : Watch)

def Stage.isUpload : Stage -> Bool
  | .collecting _ _ _ | .sending _ _ _ | .deleting _ _ => true
  | _ => false

/-- A listing that an upload may disturb. -/
def Stage.disturbed : Stage -> Stage
  | .searching passphrase cursor watch => .searching passphrase cursor { watch with calm := false }
  | stage => stage

structure Finished where
  passphrase : Text
  watch : Watch
  result : Except String SettingsSyncDownload

structure State where
  chat : List ChatMessage
  last : Nat
  latest : Option Sent
  commands : List Stage
  finished : List Finished

def State.initial : State := ⟨[], 0, none, [], []⟩

inductive Event
  -- any other message
  | arrives (id : Nat) (text : Text)
  | upload (settings : Settings) (passphrase : Text) (file : Option Text) (random : Vector UInt8 16)
      (updatedAt : Int) (draws : SealDraws)
  | download (passphrase : Text)
  | page (index size : Nat)
  -- Telegram takes the message; the device may not hear of it
  | send (index id : Nat) (confirmed : Bool)
  | delete (index : Nat) (gone : List Nat)
  | decrypt (index : Nat)
  | stop (index : Nat)

/-- The request that `cmd_upload_settings_sync` seals. -/
def uploadRequest (settings : Settings) (passphrase : Text) (file : Option Text) (random : Vector UInt8 16)
    (updatedAt : Int) (draws : SealDraws) : Request :=
  ⟨settings, passphrase, deviceId file random, updatedAt, draws⟩

/-- The backup can be read from the first page on, before any other settings message. -/
def reaches (chat : List ChatMessage) : Option Sent -> Bool
  | none => false
  | some sent =>
    let newer := chat.takeWhile fun message => decide (message ≠ sent.message)
    decide (newer.length < messageScanLimit) && newer.all fun message => !message.isSettings

namespace State

variable (state : State)

/-- A command goes on. -/
def goes (index : Nat) (stage : Stage) : State := { state with commands := state.commands.set index stage }

/-- A command ends. -/
def ends (index : Nat) : State := { state with commands := state.commands.eraseIdx index }

def deleteBatch : Nat := 100

/-- `client.delete_messages` with one batch of ids. -/
def deletes (batch gone : List Nat) : State :=
  { state with chat := state.chat.filter fun message => !(batch.contains message.id && gone.contains message.id) }

variable (library : CryptoLibrary) (format : Format)

def step : Event -> Option State
  | .arrives id text =>
    if state.last < id then some { state with
      chat := ⟨id, text⟩ :: state.chat
      last := id }
    else none
  | .upload settings passphrase file random updatedAt draws =>
    let request := uploadRequest settings passphrase file random updatedAt draws
    if -(2 ^ 63) ≤ updatedAt ∧ updatedAt < 2 ^ 63 then
      match encryptSettings library format request with
      | .error _ => some state
      | .ok text => some { state with
          commands := state.commands.map Stage.disturbed ++ [.collecting request text .start] }
    else none
  | .download passphrase =>
    let quiet := !state.commands.any Stage.isUpload
    some { state with
      commands := state.commands ++ [.searching passphrase .start ⟨state.latest, quiet, quiet, false⟩] }
  | .page index size =>
    if size = 0 then none
    else
      match state.commands[index]? with
      | some (.collecting request text cursor) =>
        let (next, ended) := cursor.page state.chat size
        some (state.goes index (if ended then .sending request text (next.found.map ChatMessage.id)
          else .collecting request text next))
      | some (.searching passphrase cursor watch) =>
        let (next, ended) := cursor.page state.chat size
        let watch := if cursor.before = none then { watch with reach := reaches state.chat watch.started } else watch
        some (state.goes index (if ended then .opening passphrase (next.found.head?.map ChatMessage.text) watch
          else .searching passphrase next watch))
      | _ => none
  | .send index id confirmed =>
    match state.commands[index]? with
    | some (.sending request text old) =>
      if state.last < id then
        let sent : State := { state with
          chat := ⟨id, text⟩ :: state.chat
          last := id
          latest := some ⟨request, ⟨id, text⟩⟩ }
        some (if confirmed && !old.isEmpty then sent.goes index (.deleting id old) else sent.ends index)
      else none
    | _ => none
  | .delete index gone =>
    match state.commands[index]? with
    | some (.deleting own old) =>
      let after := state.deletes (old.take deleteBatch) gone
      let rest := old.drop deleteBatch
      some (if rest = [] then after.ends index else after.goes index (.deleting own rest))
    | _ => none
  | .decrypt index =>
    match state.commands[index]? with
    | some (.opening passphrase first watch) =>
      let result : Except String SettingsSyncDownload :=
        match first with
        | none => .error "No encrypted settings backup was found in Saved Messages"
        | some text => decryptSettings library format text passphrase
      some { state.ends index with finished := ⟨passphrase, watch, result⟩ :: state.finished }
    | _ => none
  | .stop index => if index < state.commands.length then some (state.ends index) else none

end State

def syncMachine (library : CryptoLibrary) (format : Format) : Machine State Event :=
  ⟨fun state event => state.step library format event⟩

end SettingsSync
end TelegramDrive
