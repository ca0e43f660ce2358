import Mathlib.Algebra.Group.Int.Defs
import Mathlib.Algebra.GroupWithZero.Nat
import Mathlib.Data.List.Dedup
import TelegramDrive.Workspace.RemoteChanges

namespace TelegramDrive
namespace RestApi

/-!
# Bulk requests of the REST interface

A request names files by a folder and message ids, which are JSON values of any kind, and
an action.  The ids are read strictly.  A folder is read by trying a number and then a
text; what is neither is taken for no folder, which is Saved Messages.

Telegram is a list of messages for each chat and an answer to each call.  A call may be
refused, carried out in part, or carried out although the answer is lost.  Outside of
channels Telegram finds a message to delete by its id alone, whatever chat it is in.
-/

/-! ## JSON -/

/-- A JSON value, with integers as far as they are written as such. -/
inductive Json
  | null
  | bool (value : Bool)
  | integer (value : Int)
  | float (digits : String)
  | string (text : String)
  | array (items : List Json)
  | object (fields : List (String × Json))

def Json.asI64 : Json -> Option Int
  | .integer value => if -2 ^ 63 ≤ value ∧ value < 2 ^ 63 then some value else none
  | _ => none

def Json.asStr : Json -> Option String
  | .string text => some text
  | _ => none

def parseDigits (digits : List Char) : Option Nat :=
  if digits ≠ [] ∧ digits.all Char.isDigit = true then
    some (digits.foldl (fun value digit => value * 10 + (digit.toNat - '0'.toNat)) 0)
  else none

/-- `str::parse`, before the bounds of the type. -/
def parseInteger (text : String) : Option Int :=
  match text.toList with
  | '+' :: digits => (parseDigits digits).map Int.ofNat
  | '-' :: digits => (parseDigits digits).map fun value => -(value : Int)
  | digits => (parseDigits digits).map Int.ofNat

def inI64 (value : Int) : Bool := decide (-2 ^ 63 ≤ value ∧ value < 2 ^ 63)

def inI32 (value : Int) : Bool := decide (-2 ^ 31 ≤ value ∧ value < 2 ^ 31)

def parseI64 (text : String) : Option Int := (parseInteger text).filter inI64

def parseI32 (text : String) : Option Int := (parseInteger text).filter inI32

/-! ## Requests and responses -/

structure BulkPayload where
  folderId : Option Json

structure BulkRequest where
  action : String
  fileIds : List Json
  folderId : Option Json
  payload : Option BulkPayload

inductive Response
  | error (code message : String) (status : Nat)
  | success (count : Nat)
  | archive

def jsonError (code message : String) (status : Nat) : Response := .error code message status

def Response.isError : Response -> Bool
  | .error _ _ _ => true
  | _ => false

def parseBulkFileId (value : Json) : Option Int :=
  (((value.asI64.filter inI32).or (value.asStr.bind parseI32))).filter fun id => decide (0 < id)

def parseBulkFileIds (values : List Json) : Except String (List Int) :=
  if values = [] then .error "Select at least one file"
  else
    match values.mapM parseBulkFileId with
    | some ids => .ok ids
    | none => .error "Every selected file must have a valid Telegram message ID"

/-- How a folder is read: a number, else a text that is one, else none. -/
def folderOf (value : Option Json) : Option Int :=
  value.bind fun value =>
    match value.asI64 with
    | some id => some id
    | none => value.asStr.bind parseI64

def BulkRequest.sourceFolder (request : BulkRequest) : Option Int := folderOf request.folderId

def BulkRequest.payloadFolder (request : BulkRequest) : Option Json := request.payload.bind BulkPayload.folderId

def BulkRequest.targetFolder (request : BulkRequest) : Option Int := folderOf request.payloadFolder

/-! ## Telegram -/

structure Message (File : Type) where
  id : Int
  file : File
deriving DecidableEq

abbrev Chats (Peer File : Type) := Peer -> List (Message File)

def find? {File : Type} (messages : List (Message File)) (id : Int) : Option (Message File) :=
  messages.find? fun message => decide (message.id = id)

/-- The moments at which a request asks whether its account is still the one that began it. -/
inductive Moment
  | inspected (message : Int)
  | beforeChange
  | beforeDeletion
  | answered
deriving DecidableEq

/-- What answers the calls of one request.  `copies` are the ids of the copies that Telegram
makes of the requested messages, in their order, and `kept` the ids it does not delete. -/
structure Remote (Peer : Type) where
  refusal : Option (String × String × Nat)
  account : Moment -> Bool
  isChannel : Peer -> Bool
  resolvePeer : Option Int -> Except String Peer
  inspect : Peer -> Int -> Except String Bool
  copies : List (Option Int)
  forwardError : Option String
  kept : List Int
  deleteError : Option String
  recordError : Option String
  archive : Peer -> List Int -> Response

section Calls

variable {Peer File : Type} [DecidableEq Peer] (remote : Remote Peer)

/-- The chats in which a deletion looks for its messages. -/
def Remote.searches (peer other : Peer) : Bool :=
  decide (other = peer) || (!remote.isChannel peer && !remote.isChannel other)

def deleteMessages (peer : Peer) (ids : List Int) (chats : Chats Peer File) : Chats Peer File := fun other =>
  if remote.searches peer other then
    (chats other).filter fun message => decide (message.id ∉ ids ∨ message.id ∈ remote.kept)
  else chats other

/-- The copies that a call makes of messages. -/
def copiesMade (messages : List (Message File)) (ids : List Int) : List (Message File) :=
  (ids.zip remote.copies).filterMap fun (id, copy) =>
    copy.bind fun newId => (find? messages id).map fun message => ⟨newId, message.file⟩

def forwardMessages (target : Peer) (ids : List Int) (source : Peer) (chats : Chats Peer File) : Chats Peer File :=
  fun other => if other = target then chats other ++ copiesMade remote (chats source) ids else chats other

def verifyForwardedMessages (messageIds : List Int) (forwarded : List (Option Int)) : Except String Unit :=
  if forwarded.length ≠ messageIds.length ∨ forwarded.any Option.isNone = true then
    .error "Some files were not copied; the originals were kept"
  else .ok ()

/-- `api_registered_encrypted` -/
def registeredEncrypted (chats : Chats Peer File) (folder : Option Int) (id : Int) : Except String Bool :=
  if remote.account (.inspected id) = false then .error "The account has changed"
  else do
    let peer <- remote.resolvePeer folder
    match find? (chats peer) id with
    | none => .error "File not found"
    | some _ => remote.inspect peer id

/-- The loop that keeps encrypted files from an action. -/
def refuseEncrypted (chats : Chats Peer File) (folder : Option Int) : List Int -> Except Response Unit
  | [] => .ok ()
  | id :: ids =>
    match registeredEncrypted remote chats folder id with
    | .ok false => refuseEncrypted chats folder ids
    | .ok true =>
      .error (jsonError "ENCRYPTED_BULK_ACTION_UNAVAILABLE"
        "This bulk action is disabled for encrypted files until registry-safe handling is available" 409)
    | .error error => .error (jsonError "ENCRYPTION_STATE_UNKNOWN" error 503)

def resolve (folder : Option Int) : Except Response Peer :=
  match remote.resolvePeer folder with
  | .ok peer => .ok peer
  | .error error => .error (jsonError "PEER_ERROR" error 400)

def accountChanged : Response := jsonError "ACCOUNT_CHANGED" "The account has changed" 409

/-- `api_scope_error` -/
def apiScope (moment : Moment) : Except Response Unit :=
  if remote.account moment then .ok () else .error accountChanged

end Calls

/-! ## The handler -/

/-- What a request does: its response, Telegram after it, and the changes that are recorded. -/
structure Outcome (Peer File : Type) where
  response : Response
  chats : Chats Peer File
  recorded : List Workspace.Change

/-- A mutation that has passed the checks before it, or a response without one. -/
inductive Plan (Peer : Type)
  | delete (folder : Option Int) (peer : Peer)
  | move (source target : Option Int) (sourcePeer targetPeer : Peer)
  | answer (response : Response)

section Handler

variable {Peer File : Type} [DecidableEq Peer] (remote : Remote Peer)

/-- The choice between the actions, up to the first change. -/
def plan (request : BulkRequest) (ids : List Int) (source target : Option Int) : Except Response (Plan Peer) :=
  if request.action = "delete" then do
    let peer <- resolve remote source
    apiScope remote .beforeChange
    return .delete source peer
  else if request.action = "move" then do
    let sourcePeer <- resolve remote source
    let targetPeer <- resolve remote target
    if source = target then return .answer (.success ids.length)
    else
      apiScope remote .beforeChange
      return .move source target sourcePeer targetPeer
  else if request.action = "archive" then do
    let peer <- resolve remote source
    return .answer (remote.archive peer ids)
  else .error (jsonError "INVALID_ACTION" "Unsupported bulk action" 400)

/-- The part of `api_bulk_files` before anything is changed. -/
def prepare (request : BulkRequest) (chats : Chats Peer File) : Except Response (List Int × Plan Peer) :=
  match remote.refusal with
  | some (code, message, status) => .error (jsonError code message status)
  | none =>
    match parseBulkFileIds request.fileIds with
    | .error error => .error (jsonError "INVALID_FILE_IDS" error 400)
    | .ok ids => do
        let source := request.sourceFolder
        let target := request.targetFolder
        (if request.action ≠ "delete" then refuseEncrypted remote chats source ids else .ok ())
        return (ids, <- plan remote request ids source target)

/-- `remote_changes::record`, and the response behind it. -/
def recordChanges (ids : List Int) (chats : Chats Peer File) (changes : List Workspace.Change) : Outcome Peer File :=
  match remote.recordError with
  | some error => ⟨jsonError "LOCAL_UPDATE_FAILED" error 500, chats, changes⟩
  | none => ⟨.success ids.length, chats, changes⟩

def deleteFiles (ids : List Int) (folder : Option Int) (peer : Peer) (chats : Chats Peer File) : Outcome Peer File :=
  let deleted := deleteMessages remote peer ids chats
  match remote.deleteError with
  | some error => ⟨jsonError "DELETE_FAILED" error 500, deleted, []⟩
  | none => recordChanges remote ids deleted (ids.map fun message => .delete folder message)

def moveFiles (ids : List Int) (source target : Option Int) (sourcePeer targetPeer : Peer) (chats : Chats Peer File) :
    Outcome Peer File :=
  let copied := forwardMessages remote targetPeer ids sourcePeer chats
  match remote.forwardError with
  | some error => ⟨jsonError "MOVE_FORWARD_FAILED" ("Forward failed: " ++ error) 500, copied, []⟩
  | none =>
    match verifyForwardedMessages ids remote.copies with
    | .error error => ⟨jsonError "MOVE_COPY_INCOMPLETE" error 502, copied, []⟩
    | .ok () =>
      match apiScope remote .beforeDeletion with
      | .error response => ⟨response, copied, []⟩
      | .ok () =>
        let deleted := deleteMessages remote sourcePeer ids copied
        match remote.deleteError with
        | some error =>
          ⟨jsonError "MOVE_DELETE_FAILED" ("Delete original failed: " ++ error) 500, deleted, []⟩
        | none =>
          recordChanges remote ids deleted ((ids.zip (remote.copies.filterMap id)).map fun (message, forwarded) =>
            .move source message target forwarded)

/-- `account_response` -/
def accountResponse (outcome : Outcome Peer File) : Outcome Peer File :=
  { outcome with response := if remote.account .answered then outcome.response else accountChanged }

def bulkFiles (request : BulkRequest) (chats : Chats Peer File) : Outcome Peer File :=
  match prepare remote request chats with
  | .error response => accountResponse remote ⟨response, chats, []⟩
  | .ok (ids, .delete folder peer) => accountResponse remote (deleteFiles remote ids folder peer chats)
  | .ok (ids, .move source target sourcePeer targetPeer) =>
    accountResponse remote (moveFiles remote ids source target sourcePeer targetPeer chats)
  | .ok (_, .answer response) => accountResponse remote ⟨response, chats, []⟩

end Handler

end RestApi
end TelegramDrive
