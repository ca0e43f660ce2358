import TelegramDrive.Library.Machine
import TelegramDrive.Transfers.Failure

namespace TelegramDrive
namespace Mobile

/-!
# The transfer queues of the mobile app

Uploads and downloads have a queue each, with the same commands and nearly the same rules.
A queue is spread over its items, the sets of items that were cancelled, paused, or paused
for want of a network, the items whose start is under way, and the count of transfers under
way.  Updates of the queue and accesses of the sets take effect at once.  Effects, which
start pending items, save the queue and follow the network, run at any later moment.

A start waits until the queue is saved, looks at its item again, and processes it.  Every
wait is a step of its own, and what is waited for may answer anything.
-/

/-! ## Items -/

/-- `useFileUpload` or `useFileDownload` -/
inductive Hook
  | upload
  | download
deriving DecidableEq

inductive ItemStatus
  | pending
  | paused
  | waitingForNetwork
  | cooldown
  | downloading
  | uploading
  | encrypting
  | decrypting
  | verifying
  | waitingForUnlock
  | success
  | error
  | cancelled
deriving DecidableEq

inductive ProtectionMode
  | standard
  | vault
  | passphrase
  | vaultAndPassphrase
deriving DecidableEq

def ProtectionMode.asks (mode : ProtectionMode) : Bool := mode == .passphrase || mode == .vaultAndPassphrase

/-- The part of an item that the queue reads.  The path is the source of an upload. -/
structure QueueItem where
  id : Nat
  path : String
  url : Option String
  androidStaged : Bool
  mode : Option ProtectionMode
  promptToken : Option Nat
  status : ItemStatus
deriving DecidableEq

abbrev Queue := List QueueItem

namespace Hook

/-- A transfer is shown as under way. -/
def active : Hook -> List ItemStatus
  | .upload => [.uploading, .downloading, .encrypting, .verifying]
  | .download => [.downloading, .decrypting, .verifying]

/-- What else `pauseAll` and the loss of the network apply to. -/
def idle : Hook -> List ItemStatus
  | .upload => [.pending]
  | .download => [.pending, .cooldown]

/-- What a cancellation removes from the queue. -/
def removable : Hook -> List ItemStatus
  | .upload => [.pending, .paused, .waitingForNetwork, .waitingForUnlock, .error]
  | .download => [.pending, .paused, .waitingForNetwork, .waitingForUnlock, .cooldown, .error]

/-- What `clearFinished` removes from the queue. -/
def clearable : Hook -> List ItemStatus
  | .upload => [.success, .error, .cancelled]
  | .download => [.success]

/-- `ACTIVE_UPLOAD_STATUSES` and `ACTIVE_DOWNLOAD_STATUSES` -/
def saved : Hook -> List ItemStatus
  | .upload => [.pending, .paused, .waitingForNetwork, .uploading, .downloading, .encrypting, .verifying,
      .waitingForUnlock, .error]
  | .download => [.pending, .paused, .waitingForNetwork, .cooldown, .downloading, .decrypting, .verifying,
      .waitingForUnlock, .error]

end Hook

/-- What `retryItem` applies to. -/
def retryable : List ItemStatus := [.error, .cancelled, .waitingForUnlock]

namespace QueueItem

/-- The item as it is saved. -/
def serialized (item : QueueItem) : QueueItem :=
  { item with
    promptToken := none
    status :=
      if item.status ∈ [ItemStatus.waitingForUnlock, .waitingForNetwork, .paused, .error] then item.status
      else .pending }

/-- `restoredUploadStatus`, or what a restored download becomes. -/
def restored (hook : Hook) (item : QueueItem) : QueueItem :=
  match hook with
  | .download => item.serialized
  | .upload =>
    { item with
      promptToken := none
      status :=
        if item.status ∈ [ItemStatus.paused, .waitingForNetwork, .error] then item.status
        else if item.mode.any ProtectionMode.asks then .waitingForUnlock
        else .pending }

/-- The private copies that `cleanupResumableSource` asks to delete. -/
def cleanup (item : QueueItem) : List String := if item.androidStaged then [item.path] else []

end QueueItem

namespace Queue

def serialize (hook : Hook) (queue : Queue) : Queue :=
  (queue.filter fun item => item.status ∈ hook.saved).map QueueItem.serialized

def restore (hook : Hook) (queue : Queue) : Queue :=
  (queue.filter fun item => item.status ∈ hook.saved).map (QueueItem.restored hook)

def idsWhere (queue : Queue) (selects : QueueItem -> Bool) : List Nat := (queue.filter selects).map QueueItem.id

def without (queue : Queue) (selects : QueueItem -> Bool) : Queue := queue.filter fun item => !selects item

def find (queue : Queue) (id : Nat) : Option QueueItem := queue.find? fun item => item.id == id

def relabel (selects : QueueItem -> Bool) (status : ItemStatus) (item : QueueItem) : QueueItem :=
  if selects item then { item with status := status } else item

/-- The status of the items that are selected becomes another one. -/
def mark (queue : Queue) (selects : QueueItem -> Bool) (status : ItemStatus) : Queue :=
  queue.map (relabel selects status)

def markId (queue : Queue) (id : Nat) (status : ItemStatus) : Queue := queue.mark (fun item => item.id == id) status

end Queue

/-! ## Failures -/

/-- `isTransientNetworkError` -/
def isTransientNetworkError (error : String) : Bool :=
  ["failed to fetch", "network", "connection", "timed out", "timeout", "temporarily unavailable", "socket",
    "broken pipe", "unreachable", "dns", "early eof", "transport error", "i/o error"].any fun fragment =>
      Transfers.containsText error.toLower fragment

/-- `/FLOOD_WAIT_(\d+)/i` -/
def isFloodWait (error : String) : Bool :=
  error.toLower.toList.tails.any fun rest =>
    "flood_wait_".toList.isPrefixOf rest && (rest[11]?).any Char.isDigit

inductive TransferFailure
  | floodWait
  | cancelled
  | locked
  | tooBig
  | transient
  | other
deriving DecidableEq

/-- What an error means to a queue. -/
def failure (hook : Hook) (error : String) : TransferFailure :=
  if hook = .download && isFloodWait error then .floodWait
  else if Transfers.containsText error "Transfer cancelled" then .cancelled
  else if Transfers.containsText error "VAULT_LOCKED" || Transfers.containsText error "KEY_REQUIRED" then .locked
  else if hook = .upload && (Transfers.containsText error "FILE_TOO_BIG" || Transfers.containsText error "too large" ||
      Transfers.containsText error "2 GB") then .tooBig
  else if isTransientNetworkError error then .transient
  else .other

def TransferFailure.status : TransferFailure -> ItemStatus
  | .floodWait => .cooldown
  | .cancelled => .cancelled
  | .locked => .waitingForUnlock
  | .tooBig => .error
  | .transient => .waitingForNetwork
  | .other => .error

/-- The private copy is kept for another attempt. -/
def TransferFailure.keeps : TransferFailure -> Bool
  | .cancelled | .tooBig => false
  | _ => true

/-! ## Starts -/

/-- Where the start of an item is.  A ticket is the number of saves to wait for. -/
inductive StartPoint
  | persisting (ticket : Nat)
  | environment (item : QueueItem)
  | inquiring (item : QueueItem)
  | unlocking (item : QueueItem)
  | prompting (item : QueueItem)
  | staging (item : QueueItem)
  | invoking (item : QueueItem)
  | deleting (item : QueueItem)
  | closing
deriving DecidableEq

structure Start where
  id : Nat
  point : StartPoint
deriving DecidableEq

/-- The transfer is between the increment and the decrement of the count. -/
def StartPoint.isCounted : StartPoint -> Bool
  | .inquiring _ | .unlocking _ | .prompting _ | .staging _ | .invoking _ | .deleting _ => true
  | _ => false

/-- `processItem` is being executed. -/
def StartPoint.isExecuting : StartPoint -> Bool
  | .persisting _ | .closing => false
  | _ => true

/-- What a wait answers. -/
inductive StartReply
  | done
  | noEnvironment
  | refused
  | allowed
  | encryption (plain : Bool) (mode : Option ProtectionMode)
  | vault (unlocked : Bool)
  | dismissed
  | answered
  | token (token : Nat)
  | succeeded
  | failed (error : String)

/-- A retry that waits for a passphrase. -/
structure WaitingRetry where
  id : Nat
  mode : ProtectionMode
deriving DecidableEq

structure HookSettings where
  limit : Nat
  defaultMode : ProtectionMode

/-- One queue.  `stopped` are the items that were paused or cancelled since they last became
pending, `added` the items that were ever enqueued, `deletions` the private copies whose
deletion was requested, and `issued` the items a transfer command was issued for, the newest
first. -/
structure HookState where
  queue : Queue
  cancelled : List Nat
  paused : List Nat
  networkPaused : List Nat
  starting : List Nat
  activeCount : Nat
  network : Bool
  healthy : Bool
  saves : List Queue
  requested : Nat
  written : Nat
  store : Queue
  starts : List Start
  retries : List WaitingRetry
  timers : List Nat
  stopped : List Nat
  added : Queue
  deletions : List String
  issued : List Nat
deriving DecidableEq

namespace HookState

variable (hook : Hook) (settings : HookSettings) (state : HookState)

/-! ## Effects -/

/-- An item begins to start, unless it does so already. -/
def begin (state : HookState) (item : QueueItem) : HookState :=
  if item.id ∈ state.starting then state
  else
    { state with
      starting := item.id :: state.starting
      starts := state.starts ++ [⟨item.id, .persisting state.requested⟩] }

/-- The pending items that an effect pass looks at. -/
def candidates : Queue :=
  (state.queue.filter fun item => item.status == .pending).take (settings.limit - state.activeCount)

/-- The scheduling effect. -/
def schedule : HookState := if state.network then (state.candidates settings).foldl begin state else state

/-- The saving effect. -/
def persist : HookState :=
  { state with
    saves := state.saves ++ [state.queue.serialize hook]
    requested := state.requested + 1 }

/-- The network effect. -/
def followNetwork : HookState :=
  if state.network then
    { state with
      queue := state.queue.mark (fun item => item.status == .waitingForNetwork) .pending
      stopped := state.stopped.filter fun id =>
        !(state.queue.any fun item => item.id == id && item.status == .waitingForNetwork) }
  else
    { state with
      queue := state.queue.mark (fun item => decide (item.status ∈ hook.active ++ hook.idle)) .waitingForNetwork
      networkPaused :=
        (state.queue.idsWhere fun item => decide (item.status ∈ hook.active)) ++ state.networkPaused }

/-! ## Commands -/

def enqueue (items : Queue) : HookState :=
  { state with
    queue := state.queue ++ items
    added := items ++ state.added }

def pauseAll : HookState :=
  let selects := fun item : QueueItem => decide (item.status ∈ hook.active ++ hook.idle)
  { state with
    queue := state.queue.mark selects .paused
    paused := (state.queue.idsWhere fun item => decide (item.status ∈ hook.active)) ++ state.paused
    stopped := state.queue.idsWhere selects ++ state.stopped }

def resumeAll : HookState :=
  { state with
    queue := state.queue.mark (fun item => item.status == .paused) .pending
    stopped := state.stopped.filter fun id => !(state.queue.any fun item => item.id == id && item.status == .paused) }

/-- The updates of `cancelAll` and `cancelItem`, for the items that are selected. -/
def cancel (selects : QueueItem -> Bool) : HookState :=
  let active := fun item => selects item && decide (item.status ∈ hook.active)
  let removed := fun item => selects item && decide (item.status ∈ hook.removable)
  { state with
    queue := (state.queue.without removed).mark active .cancelled
    cancelled := state.queue.idsWhere active ++ state.cancelled
    stopped := state.queue.idsWhere active ++ state.queue.idsWhere removed ++ state.stopped
    deletions :=
      if hook = .upload then (state.queue.filter removed).flatMap QueueItem.cleanup ++ state.deletions
      else state.deletions }

def cancelAll : HookState := state.cancel hook fun _ => true

def cancelItem (id : Nat) : HookState := state.cancel hook fun item => item.id == id

/-- What `clearFinished` removes; a cancelled upload that is being stopped stays. -/
def clears (item : QueueItem) : Bool :=
  decide (item.status ∈ hook.clearable) && (hook == .download || !decide (item.id ∈ state.cancelled))

def clearFinished : HookState :=
  { state with
    queue := state.queue.without (state.clears hook)
    deletions :=
      if hook = .upload then (state.queue.filter (state.clears hook)).flatMap QueueItem.cleanup ++ state.deletions
      else state.deletions }

def pauseItem (id : Nat) : HookState :=
  match state.queue.find id with
  | none => state
  | some item =>
    if item.status ∈ hook.active then
      { state with
        queue := state.queue.markId id .paused
        paused := id :: state.paused
        stopped := id :: state.stopped }
    else if item.status ∈ ItemStatus.waitingForNetwork :: hook.idle then
      { state with
        queue := state.queue.markId id .paused
        stopped := id :: state.stopped }
    else state

def resumeItem (id : Nat) : HookState :=
  let selects := fun item : QueueItem => item.id == id && item.status == .paused
  if state.network then
    { state with
      queue := state.queue.mark selects .pending
      stopped := state.stopped.filter fun other => !(state.queue.any fun item => item.id == other && selects item) }
  else { state with queue := state.queue.mark selects .waitingForNetwork }

/-- The end of `retryItem`: the item is pending again, maybe with a new token. -/
def again (selects : QueueItem -> Bool) (token : Option Nat) : HookState :=
  { state with
    queue := state.queue.map fun item =>
      if selects item then
        { item with
          status := .pending
          promptToken := token.or item.promptToken }
      else item
    stopped := state.stopped.filter fun id => !(state.queue.any fun item => item.id == id && selects item) }

def retryItem (id : Nat) : HookState :=
  if id ∈ state.cancelled then state
  else
    match hook with
    | .download => state.again (fun item => item.id == id && decide (item.status ∈ retryable)) none
    | .upload =>
      match state.queue.find id with
      | none => state
      | some item =>
        if item.status ∉ retryable then state
        else
          match item.mode.filter ProtectionMode.asks with
          | none => state.again (fun item => item.id == id) none
          | some mode => { state with retries := ⟨id, mode⟩ :: state.retries }

/-- The passphrase of a retry was staged, or refused. -/
def answerRetry (retry : WaitingRetry) (token : Option Nat) : HookState :=
  let left := { state with retries := state.retries.erase retry }
  match token with
  | none => left
  | some token => left.again (fun item => item.id == retry.id) (some token)

def endCooldown (id : Nat) : HookState :=
  let selects := fun item : QueueItem => item.id == id && item.status == .cooldown
  { state with
    queue := state.queue.mark selects .pending
    timers := state.timers.erase id
    stopped := state.stopped.filter fun other => !(state.queue.any fun item => item.id == other && selects item) }

/-- A remote upload reports its phase. -/
def remoteProgress (id : Nat) (phase : ItemStatus) : HookState :=
  { state with
    queue := state.queue.mark
      (fun item => item.id == id && decide (item.status ∉ [ItemStatus.paused, .cancelled, .waitingForNetwork])) phase }

/-! ## Processing an item -/

def withoutId (ids : List Nat) (id : Nat) : List Nat := ids.filter fun other => other != id

/-- `finally` -/
def finish (start : Start) : Option Start × HookState :=
  (some ⟨start.id, .closing⟩, { state with activeCount := state.activeCount - 1 })

/-- The transfer command is issued. -/
def invoke (item : QueueItem) : Option Start × HookState :=
  (some ⟨item.id, .invoking item⟩, { state with issued := item.id :: state.issued })

/-- The count goes up, and the item is shown as under way. -/
def counted (id : Nat) (status : ItemStatus) : HookState :=
  { state with
    queue := state.queue.markId id status
    activeCount := state.activeCount + 1 }

/-- `processItem`, up to its first wait. -/
def processItem (item : QueueItem) : Option Start × HookState :=
  match hook with
  | .download => (some ⟨item.id, .environment item⟩, state)
  | .upload =>
    let mode := item.mode.getD settings.defaultMode
    if mode.asks && item.promptToken.isNone then
      (some ⟨item.id, .closing⟩,
        { state with
          queue := state.queue.map fun other =>
            if other.id = item.id then
              { other with
                mode := some mode
                status := .waitingForUnlock }
            else other })
    else (state.counted item.id (if item.url.isSome then .downloading else .uploading)).invoke item

/-- The download command, unless a pause was noted. -/
def issue (item : QueueItem) : Option Start × HookState :=
  if item.id ∈ state.paused then
    ({ state with paused := withoutId state.paused item.id }).finish ⟨item.id, .invoking item⟩
  else state.invoke item

/-- `needsPassphrase && !promptToken` -/
def askOrIssue (item : QueueItem) (needsPassphrase : Bool) : Option Start × HookState :=
  if needsPassphrase && item.promptToken.isNone then (some ⟨item.id, .prompting item⟩, state) else state.issue item

/-- The private copy of an upload is deleted, or there is none. -/
def clean (item : QueueItem) : Option Start × HookState :=
  if hook = .upload && item.androidStaged then
    (some ⟨item.id, .deleting item⟩, { state with deletions := item.cleanup ++ state.deletions })
  else state.finish ⟨item.id, .deleting item⟩

/-- The transfer command returned. -/
def succeed (item : QueueItem) : Option Start × HookState :=
  let noted := { state with
    paused := withoutId state.paused item.id
    networkPaused := withoutId state.networkPaused item.id }
  if item.id ∈ state.cancelled then
    ({ noted with cancelled := withoutId state.cancelled item.id }).clean hook item
  else ({ noted with queue := state.queue.markId item.id .success }).clean hook item

/-- An error that no command of the user explains. -/
def showFailure (item : QueueItem) (failed : TransferFailure) : HookState :=
  { state with
    queue := state.queue.map fun other =>
      if other.id = item.id then
        { other with
          status := failed.status
          promptToken := if failed = .locked then none else other.promptToken }
      else other
    timers := if failed = .floodWait then item.id :: state.timers else state.timers }

/-- `catch` -/
def fail (item : QueueItem) (error : String) : Option Start × HookState :=
  if item.id ∈ state.networkPaused then
    ({ state with networkPaused := withoutId state.networkPaused item.id }).finish ⟨item.id, .invoking item⟩
  else if item.id ∈ state.paused then
    ({ state with paused := withoutId state.paused item.id }).finish ⟨item.id, .invoking item⟩
  else if item.id ∈ state.cancelled then
    ({ state with cancelled := withoutId state.cancelled item.id }).clean hook item
  else
    let shown := state.showFailure item (failure hook error)
    if (failure hook error).keeps then shown.finish ⟨item.id, .invoking item⟩ else shown.clean hook item

/-- The start looks at its item again when the queue is saved. -/
def recheck (start : Start) : Option Start × HookState :=
  match state.queue.find start.id with
  | none => (some ⟨start.id, .closing⟩, state)
  | some current =>
    if current.status ≠ .pending || !state.network then (some ⟨start.id, .closing⟩, state)
    else if !state.healthy then
      (some ⟨start.id, .closing⟩, { state with queue := state.queue.markId start.id .error })
    else state.processItem hook settings current

/-- A start goes on with what it waited for. -/
def startStep (start : Start) : StartReply -> Option (Option Start × HookState) :=
  match start.point with
  | .persisting ticket => fun
      | .done => if state.written < ticket then none else some (state.recheck hook settings start)
      | _ => none
  | .environment item => fun
      | .noEnvironment => some (some ⟨start.id, .closing⟩, state)
      | .refused =>
        some (some ⟨start.id, .closing⟩, { state with queue := state.queue.markId start.id .waitingForNetwork })
      | .allowed => some (some ⟨start.id, .inquiring item⟩, state.counted start.id .downloading)
      | _ => none
  | .inquiring item => fun
      | .encryption plain mode =>
        let shown := if plain then state else { state with queue := state.queue.markId start.id .decrypting }
        if mode = some .vaultAndPassphrase then some (some ⟨start.id, .unlocking item⟩, shown)
        else some (shown.askOrIssue item (mode = some .passphrase))
      | .failed error => some (state.fail hook item error)
      | _ => none
  | .unlocking item => fun
      | .vault unlocked => some (state.askOrIssue item (!unlocked))
      | _ => none
  | .prompting item => fun
      | .dismissed =>
        some (({ state with queue := state.queue.markId start.id .waitingForUnlock }).finish start)
      | .answered => some (some ⟨start.id, .staging item⟩, state)
      | _ => none
  | .staging item => fun
      | .token _ => some (state.issue item)
      | .failed error => some (state.fail hook item error)
      | _ => none
  | .invoking item => fun
      | .succeeded => some (state.succeed hook item)
      | .failed error => some (state.fail hook item error)
      | _ => none
  | .deleting _ => fun
      | .done => some (state.finish start)
      | _ => none
  | .closing => fun
      | .done => some (none, { state with starting := withoutId state.starting start.id })
      | _ => none

end HookState

/-! ## Steps -/

inductive HookEvent
  | enqueue (items : Queue)
  | schedule
  | persist
  | wrote (saved healthy : Bool)
  | network (available : Bool)
  | followNetwork
  | pauseAll
  | resumeAll
  | cancelAll
  | clearFinished
  | pauseItem (id : Nat)
  | resumeItem (id : Nat)
  | cancelItem (id : Nat)
  | retryItem (id : Nat)
  | answerRetry (index : Nat) (token : Option Nat)
  | endCooldown (id : Nat)
  | remoteProgress (id : Nat) (phase : ItemStatus)
  | advance (index : Nat) (reply : StartReply)
  | restart

namespace HookState

variable (hook : Hook) (settings : HookSettings) (state : HookState)

/-- Items that are enqueued are new: their names were just drawn, and so were the paths of
their private copies. -/
def fresh (items : Queue) : Bool :=
  decide (items.map QueueItem.id).Nodup && decide (items.flatMap QueueItem.cleanup).Nodup && items.all fun item =>
    item.status == .pending && (!item.androidStaged || item.url.isNone) &&
      !(state.added.any fun other => other.id == item.id || (item.androidStaged && other.path == item.path))

/-- The process ends, and the queue is restored from what was saved. -/
def restart : HookState :=
  { state with
    queue := state.store.restore hook
    cancelled := []
    paused := []
    networkPaused := []
    starting := []
    activeCount := 0
    healthy := true
    saves := []
    requested := 0
    written := 0
    starts := []
    retries := []
    timers := []
    stopped := [] }

/-- Only a remote upload that is being executed reports its phase. -/
def mayReport (id : Nat) (phase : ItemStatus) : Bool :=
  hook == .upload && (phase == .downloading || phase == .uploading) && state.starts.any fun start =>
    start.id == id &&
      match start.point with
      | .invoking item | .deleting item => item.url.isSome
      | _ => false

def step : HookEvent -> Option HookState
  | .enqueue items => if state.fresh items then some (state.enqueue items) else none
  | .schedule => some (state.schedule settings)
  | .persist => some (state.persist hook)
  | .wrote saved healthy =>
    match state.saves with
    | [] => none
    | snapshot :: rest =>
      some { state with
        saves := rest
        written := state.written + 1
        healthy := healthy
        store := if saved then snapshot else state.store }
  | .network available => some { state with network := available }
  | .followNetwork => some (state.followNetwork hook)
  | .pauseAll => some (state.pauseAll hook)
  | .resumeAll => some state.resumeAll
  | .cancelAll => some (state.cancelAll hook)
  | .clearFinished => some (state.clearFinished hook)
  | .pauseItem id => some (state.pauseItem hook id)
  | .resumeItem id => some (state.resumeItem id)
  | .cancelItem id => some (state.cancelItem hook id)
  | .retryItem id => some (state.retryItem hook id)
  | .answerRetry index token => (state.retries[index]?).map fun retry => state.answerRetry retry token
  | .endCooldown id => if id ∈ state.timers then some (state.endCooldown id) else none
  | .remoteProgress id phase => if state.mayReport hook id phase then some (state.remoteProgress id phase) else none
  | .advance index reply =>
    (state.starts[index]?).bind fun start =>
      (state.startStep hook settings start reply).map fun (next, after) =>
        { after with
          starts :=
            match next with
            | none => state.starts.eraseIdx index
            | some next => state.starts.set index next }
  | .restart => some (state.restart hook)

end HookState

def hookMachine (hook : Hook) (settings : HookSettings) : Machine HookState HookEvent where
  step := HookState.step hook settings

/-- The queue when the app is installed. -/
def newQueue : HookState where
  queue := []
  cancelled := []
  paused := []
  networkPaused := []
  starting := []
  activeCount := 0
  network := true
  healthy := true
  saves := []
  requested := 0
  written := 0
  store := []
  starts := []
  retries := []
  timers := []
  stopped := []
  added := []
  deletions := []
  issued := []

end Mobile
end TelegramDrive
