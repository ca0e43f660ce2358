import TelegramDrive.Library.Machine
import TelegramDrive.SyncEngine.Policy
import TelegramDrive.Transfers.Failure

namespace TelegramDrive
namespace Workspace

/-!
# Offline packs

A pack is a record with the files that the user keeps for a trip, and a directory with
their complete copies.  A run downloads the files of a pack one after the other.  At most
one job is registered for a pack; the record names the active run, and a run changes the
record only while it is the active one.  Maintenance reconciles the record with the files
that are there, and expires the pack.

The steps are the transactions of the store, the accesses of the registered jobs and of the
file system, and what is awaited.  Commands and runs take them in any order, and the
process may stop between any two of them.
-/

/-! ## Packs -/

inductive ItemStatus
  | pending
  | downloading
  | ready
  | error
  | cancelled
  | unsupported
  | expired
deriving DecidableEq

inductive PackStatus
  | queued
  | running
  | waiting
  | paused
  | ready
  | error
  | cancelled
  | expired
deriving DecidableEq

/-- The part of a workspace file that packs read. -/
structure PackFile where
  key : String
  fileExt : Option String
  encryptionState : String
  size : Nat
deriving DecidableEq

structure PackItem where
  file : PackFile
  status : ItemStatus
  downloadedBytes : Nat
  error : Option String
deriving DecidableEq

structure OfflinePack where
  name : String
  wifiOnly : Bool
  expiresAt : Option Int
  createdAt : Int
  updatedAt : Int
  status : PackStatus
  waitingReason : Option String
  autoResume : Bool
  activeRun : Option Nat
  files : List PackItem
deriving DecidableEq

structure NetworkStatus where
  known : Bool
  connected : Bool
  wifi : Bool

def NetworkStatus.reason (network : NetworkStatus) (wifiOnly : Bool) : Option String :=
  if !network.known then some "NETWORK_STATUS_UNKNOWN"
  else if !network.connected then some "WAITING_FOR_NETWORK"
  else if wifiOnly && !network.wifi then some "WAITING_FOR_WIFI"
  else none

def spaceReserved : Nat := 128 * 1024 * 1024

/-! ## Files -/

/-- The files in the directory of the pack, by their names, with their sizes. -/
abbrev PackDirectory := String -> Option Nat

/-- `file_name`, with a hash in hexadecimal digits. -/
def PackFile.fileName (sha256 : String -> String) (file : PackFile) : String :=
  let extension := ((file.fileExt.getD "bin").toList.filter Char.isAlphanum).take 12
  sha256 file.key ++ "." ++ if extension.isEmpty then "bin" else String.ofList extension

def isPart (name : String) : Bool := decide (".part".toList <:+ name.toList) && name != ".part"

/-- `clean_partials` -/
def cleanPartials (directory : PackDirectory) : PackDirectory :=
  fun name => if isPart name then none else directory name

/-- `existing_path`: the target is there, with the recorded size. -/
def existingPath (sha256 : String -> String) (directory : PackDirectory) (file : PackFile) : Except String String :=
  match directory (file.fileName sha256) with
  | none => .error "OFFLINE_FILE_MISSING"
  | some size =>
    if size = file.size then .ok (file.fileName sha256)
    else .error "OFFLINE_FILE_INCOMPLETE: Retry this file before travelling"

/-- A complete copy of the file is there. -/
def isComplete (sha256 : String -> String) (directory : PackDirectory) (file : PackFile) : Bool :=
  decide (directory (file.fileName sha256) = some file.size)

/-! ## Changes of a record -/

/-- A download that a run has chosen, with what it keeps of the pack. -/
structure Chosen where
  index : Nat
  file : PackFile
  wifiOnly : Bool
  expiresAt : Option Int
deriving DecidableEq

inductive PackAction
  | start
  | retry
  | retryFile
  | pause
  | cancel
  | cancelFile
  | remove
  | unknown
deriving DecidableEq

namespace PackItem

def counts (item : PackItem) : Bool := item.status != .ready && item.status != .unsupported

def isUnfinished (item : PackItem) : Bool := item.status == .pending || item.status == .downloading

/-- The user cannot cancel or retry the item. -/
def isSettled (item : PackItem) : Bool :=
  item.status == .ready || item.status == .unsupported || item.status == .expired

/-- The item as a cancellation, a retry or a pause leaves it, without its error. -/
def reset (item : PackItem) (status : ItemStatus) : PackItem :=
  { item with
    status := status
    downloadedBytes := 0
    error := none }

/-- What maintenance makes of an item of a pack that has a job or none. -/
def reconcile (running complete : Bool) (item : PackItem) : PackItem :=
  if item.status == .ready && !complete then
    { item with
      status := .pending
      downloadedBytes := 0
      error := some "OFFLINE_FILE_MISSING" }
  else if !running && complete &&
      (item.status == .pending || item.status == .downloading || item.status == .error) then
    { item with
      status := .ready
      downloadedBytes := item.file.size
      error := none }
  else if !running && item.status == .downloading then
    { item with
      status := .pending
      downloadedBytes := 0 }
  else item

def expire (item : PackItem) : PackItem :=
  { item with
    status := .expired
    downloadedBytes := 0 }

/-- The item of a pack that is started or retried. -/
def retry (item : PackItem) : PackItem :=
  if item.status == .error || item.status == .cancelled || item.status == .downloading then item.reset .pending
  else item

/-- The item of a pack that is stopped. -/
def stop (item : PackItem) : PackItem :=
  if item.status == .downloading then
    { item with
      status := .pending
      downloadedBytes := 0 }
  else item

def progress (item : PackItem) (bytes : Nat) : PackItem :=
  if item.status == .downloading then { item with downloadedBytes := bytes } else item

/-- The item was downloaded, unless the user cancelled it. -/
def store (item : PackItem) (size : Nat) : PackItem :=
  if item.status == .cancelled then item
  else
    { item with
      status := .ready
      downloadedBytes := size
      error := none }

/-- The download failed, and is tried again or not. -/
def note (item : PackItem) (waiting : Bool) (error : String) : PackItem :=
  { item with
    status := if waiting then .pending else .error
    downloadedBytes := 0
    error := some error }

end PackItem

namespace OfflinePack

variable (pack : OfflinePack)

/-- `required_bytes` -/
def requiredBytes : Except String Nat :=
  (pack.files.filter PackItem.counts).foldlM
    (fun bytes item => if bytes + item.file.size < 2 ^ 64 then .ok (bytes + item.file.size) else .error "PACK_TOO_LARGE")
    0

def overdue (now : Int) : Bool := pack.expiresAt.any fun expires => decide (expires ≤ now)

/-- `save`: the record as it is stored. -/
def stamped (now : Int) : OfflinePack := { pack with updatedAt := now }

def allReady : Bool := pack.files.all fun item => item.status == .ready

def isExpired (now : Int) : Bool := pack.status == .expired || pack.overdue now

/-- What maintenance makes of a pack whose time is up. -/
def expire : OfflinePack :=
  { pack with
    status := .expired
    autoResume := false
    activeRun := none
    files := pack.files.map PackItem.expire }

/-- The pack behind a process that stopped. -/
def settle : OfflinePack :=
  { pack with
    activeRun := none
    status :=
      if pack.activeRun.isSome || pack.status == .running || pack.status == .waiting then
        if pack.autoResume then .queued else .paused
      else pack.status }

def reconcileItems (running : Bool) (complete : PackFile -> Bool) : OfflinePack :=
  { pack with files := pack.files.map fun item => item.reconcile running (complete item.file) }

/-- The state of a pack without a job follows its items. -/
def conclude (running : Bool) : OfflinePack :=
  if !running && pack.allReady && pack.status != .ready then
    { pack with
      status := .ready
      autoResume := false
      waitingReason := none }
  else if !running && pack.status == .ready && !pack.allReady then { pack with status := .paused }
  else pack

/-- What maintenance makes of a pack that stays. -/
def reconcile (running : Bool) (complete : PackFile -> Bool) : OfflinePack :=
  ((if running then pack else pack.settle).reconcileItems running complete).conclude running

def modifyItem (index : Nat) (change : PackItem -> PackItem) : OfflinePack :=
  { pack with files := pack.files.modify index change }

def isCancelled (index : Nat) : Bool := (pack.files[index]?).any fun item => item.status == .cancelled

/-- The first item with the key. -/
def indexOf (key : String) : Option Nat := pack.files.findIdx? fun item => item.file.key == key

/-- The item that an action is about, if it may be acted on. -/
def actedOn (key : Option String) : Option Nat :=
  (key.bind pack.indexOf).filter fun index => !(pack.files[index]?).any PackItem.isSettled

def actOnItem (key : Option String) (status : ItemStatus) (now : Int) : Except String OfflinePack :=
  match key with
  | none => .error "Choose an offline file"
  | some key =>
    match pack.indexOf key with
    | none => .error "File is not in this pack"
    | some index =>
      if (pack.files[index]?).any PackItem.isSettled then .ok pack
      else .ok ((pack.modifyItem index fun item => item.reset status).stamped now)

/-- The pack behind a pause, a cancellation or a removal. -/
def halt (status : PackStatus) : OfflinePack :=
  { pack with
    activeRun := none
    autoResume := false
    status := status
    waitingReason := none
    files := pack.files.map PackItem.stop }

/-- `update_action` -/
def act (action : PackAction) (key : Option String) (now : Int) : Except String OfflinePack :=
  match action with
  | .cancelFile => pack.actOnItem key .cancelled now
  | .retryFile => pack.actOnItem key .pending now
  | .start | .retry =>
    if pack.status = .expired then .error "PACK_EXPIRED"
    else
      .ok ({ pack with files := pack.files.map PackItem.retry }.stamped now)
  | .pause | .remove => .ok ((pack.halt .paused).stamped now)
  | .cancel => .ok ((pack.halt .cancelled).stamped now)
  | .unknown => .error "Unknown offline pack action"

/-- `launch`: a run becomes the active one. -/
def launch (run : Nat) : OfflinePack :=
  { pack with
    activeRun := some run
    autoResume := true
    status := .queued }

/-- The next item that the run downloads. -/
def choose : Option Chosen :=
  (pack.files.findIdx? PackItem.isUnfinished).bind fun index =>
    (pack.files[index]?).map fun item => ⟨index, item.file, pack.wifiOnly, pack.expiresAt⟩

def finish : OfflinePack :=
  { pack with
    status := if pack.allReady then .ready else .error
    waitingReason := none
    activeRun := none
    autoResume := false }

def wait (reason : String) : OfflinePack :=
  { pack with
    status := .waiting
    waitingReason := some reason }

/-- The item is being downloaded. -/
def mark (index : Nat) : OfflinePack :=
  { pack.modifyItem index (fun item => item.reset .downloading) with
    status := .running
    waitingReason := none }

def progress (index bytes : Nat) : OfflinePack := pack.modifyItem index fun item => item.progress bytes

def store (index size : Nat) : OfflinePack := pack.modifyItem index fun item => item.store size

/-- The download of the item failed, unless the user cancelled it. -/
def note (index : Nat) (error : String) (lost : Bool) : OfflinePack :=
  let storageWait := Transfers.containsText error "STORAGE_UNAVAILABLE"
  let waiting := storageWait || lost || Transfers.containsText error "NETWORK_UNAVAILABLE"
  if pack.isCancelled index then pack
  else
    let noted := pack.modifyItem index fun item => item.note waiting error
    if waiting then noted.wait (if storageWait then "WAITING_FOR_STORAGE" else "WAITING_FOR_NETWORK") else noted

def fail (error : String) : OfflinePack :=
  { pack with
    status := .paused
    waitingReason := some error
    activeRun := none }

end OfflinePack

/-- What the user asks for. -/
structure PackRequest where
  name : String
  keys : List String
  wifiOnly : Bool
  expiresAt : Option Int

/-- The item of a new pack; protected files cannot be kept offline. -/
def packItem (file : String -> Option PackFile) (key : String) : Except String PackItem :=
  match file key with
  | none => .error "FILE_NOT_INDEXED: Scan the full folder before creating this pack"
  | some file =>
    if file.encryptionState = "plain" then .ok ⟨file, .pending, 0, none⟩
    else
      .ok ⟨file, .unsupported, 0,
        some "ENCRYPTED_OFFLINE_UNAVAILABLE: Export protected files through your unlocked vault"⟩

/-- `create_record`, for the files that are indexed. -/
def createRecord (file : String -> Option PackFile) (request : PackRequest) (now : Int) : Except String OfflinePack :=
  let name := SyncEngine.trim request.name.toList
  if name.isEmpty || 120 < name.length || request.keys.isEmpty || 10000 < request.keys.length then
    .error "INVALID_PACK: Choose a name and 1–10,000 files"
  else if request.expiresAt.any fun expires =>
      decide (expires ≤ now) || decide (now + 366 * 24 * 60 * 60 * 1000 < expires) then
    .error "INVALID_EXPIRY: Choose an expiry within the next year"
  else do
    let files <- request.keys.reverse.dedup.reverse.mapM (packItem file)
    let pack : OfflinePack :=
      ⟨String.ofList name, request.wifiOnly, request.expiresAt, now, now, .paused, none, false, none, files⟩
    let _ <- pack.requiredBytes
    return pack

/-! ## Runs and commands -/

/-- How a download ended; the network may have been lost meanwhile. -/
inductive DownloadEnd
  | done
  | failed (error : String) (lost : Bool)
deriving DecidableEq

/-- Where a run is.  While it downloads, the target may have been published already. -/
inductive RunPoint
  | top
  | reading
  | expiring
  | finishing
  | gate (chosen : Chosen)
  | space (chosen : Chosen)
  | waiting (reason : String)
  | marking (chosen : Chosen)
  | downloading (chosen : Chosen) (renamed : Bool)
  | cleaning (chosen : Chosen) (outcome : DownloadEnd)
  | checking (chosen : Chosen) (outcome : DownloadEnd)
  | dating (chosen : Chosen) (outcome : DownloadEnd)
  | rereading (chosen : Chosen) (outcome : DownloadEnd)
  | discarding (chosen : Chosen)
  | storing (chosen : Chosen)
  | noting (chosen : Chosen) (error : String) (lost : Bool)
  | failing (error : String)
  | tidying
  | leaving

/-- What begins with maintenance. -/
inductive PackCall
  | list
  | resume
  | act (action : PackAction) (key : Option String)
  | verify (key : String)

/-- Where a command is. -/
inductive CallPoint
  | entering (call : PackCall)
  | checking (action : PackAction) (key : Option String)
  | awaiting (action : PackAction) (key : Option String)
  | stopping (action : PackAction) (key : Option String)
  | updating (action : PackAction) (key : Option String)
  | registering
  | preparing (run : Nat)
  | unregistering
  | draining
  | deleting
  | dropping
  | reading (key : String) (since : Int)
  | resolving (pack : OfflinePack) (item : PackItem) (since : Int)

inductive PackThread
  | run (run : Nat) (point : RunPoint)
  | call (point : CallPoint)

/-- What happened: a run published a file, a verification read the pack, or returned the path
of an item of the pack it read.  A verification notes when its maintenance took place. -/
inductive PackEntry
  | published (run : Nat) (name : String) (size : Nat)
  | read (pack : OfflinePack) (since : Int)
  | returned (pack : OfflinePack) (item : PackItem) (since : Int)
deriving DecidableEq

/-- One pack.  `jobs` is the job that is registered for it, and `flags` are the jobs that were
told to stop.  `cancelled` are the items that the user cancelled and did not retry since.
The newest entry of the log comes first. -/
structure PackState where
  record : Option OfflinePack
  files : PackDirectory
  clock : Int
  jobs : Option Nat
  runs : Nat
  flags : List Nat
  threads : List PackThread
  cancelled : List Nat
  log : List PackEntry

/-- What a step hears: that it worked; that it failed, before or after its effects outside
the store; or what was asked for. -/
inductive PackReply
  | done
  | failed (error : String)
  | failedLate (error : String)
  | network (status : NetworkStatus)
  | space (bytes : Nat)
  | progress (bytes : Nat)
  | renamed
  | stopped (error : String) (lost : Bool)

def packNotFound : String := "PACK_NOT_FOUND"

/-- The items that count as cancelled by the user behind an action. -/
def cancellations (pack : OfflinePack) (action : PackAction) (key : Option String) (cancelled : List Nat) : List Nat :=
  match action with
  | .start | .retry => []
  | .cancelFile => (pack.actedOn key).toList ++ cancelled
  | .retryFile => cancelled.filter fun index => pack.actedOn key ≠ some index
  | _ => cancelled

namespace PackState

variable (state : PackState)

/-- `mutate_running` -/
def mutateRunning (run : Nat) (change : OfflinePack -> OfflinePack) : Except String OfflinePack × PackState :=
  match state.record with
  | none => (.error packNotFound, state)
  | some pack =>
    if pack.activeRun ≠ some run then (.error "CANCELLED", state)
    else
      let next := (change pack).stamped state.clock
      (.ok next, { state with record := some next })

/-- A change of the running pack, and where the run goes from there. -/
def mutating (run : Nat) (change : OfflinePack -> OfflinePack) (next : OfflinePack -> RunPoint) :
    PackReply -> Option (Option PackThread × PackState)
  | .done =>
    let (result, after) := state.mutateRunning run change
    match result with
    | .ok pack => some (some (.run run (next pack)), after)
    | .error error => some (some (.run run (.failing error)), after)
  | .failed error => some (some (.run run (.failing error)), state)
  | _ => none

section Names

variable (sha256 : String -> String)

/-- `maintain`, up to the access of the store that makes it last. -/
def sweep : PackState :=
  match state.record with
  | none => state
  | some pack =>
    if pack.isExpired state.clock then { state with flags := state.jobs.toList ++ state.flags }
    else if state.jobs.isSome then state
    else { state with files := cleanPartials state.files }

/-- `maintain` -/
def maintain : PackState :=
  match state.record with
  | none => state
  | some pack =>
    if pack.isExpired state.clock then
      { state.sweep with
        record := some (pack.expire.stamped state.clock)
        files := fun _ => none }
    else
      let next := pack.reconcile state.jobs.isSome (isComplete sha256 state.sweep.files)
      { state.sweep with record := some (if next = pack then pack else next.stamped state.clock) }

/-- `run_pack`, and what is done behind it. -/
def runStep (run : Nat) : RunPoint -> PackReply -> Option (Option PackThread × PackState)
  | .top, .done => some (some (.run run (if run ∈ state.flags then .tidying else .reading)), state)
  | .reading, .done =>
    match state.record with
    | none => some (some (.run run (.failing packNotFound)), state)
    | some pack =>
      if pack.activeRun ≠ some run then some (some (.run run .tidying), state)
      else if pack.overdue state.clock then some (some (.run run .expiring), state)
      else
        match pack.choose with
        | none => some (some (.run run .finishing), state)
        | some chosen => some (some (.run run (.gate chosen)), state)
  | .reading, .failed error => some (some (.run run (.failing error)), state)
  | .expiring, .done => some (some (.run run .tidying), state.maintain sha256)
  | .expiring, .failed error => some (some (.run run (.failing error)), state)
  | .expiring, .failedLate error => some (some (.run run (.failing error)), state.sweep)
  | .finishing, reply => state.mutating run OfflinePack.finish (fun _ => .tidying) reply
  | .gate chosen, .network status =>
    match status.reason chosen.wifiOnly with
    | some reason => some (some (.run run (.waiting reason)), state)
    | none => some (some (.run run (.space chosen)), state)
  | .space chosen, .space bytes =>
    if bytes < chosen.file.size + spaceReserved then
      some (some (.run run (.waiting "WAITING_FOR_STORAGE")), state)
    else some (some (.run run (.marking chosen)), state)
  | .space _, .failed error => some (some (.run run (.failing error)), state)
  | .waiting reason, reply => state.mutating run (fun pack => pack.wait reason) (fun _ => .top) reply
  | .marking chosen, reply =>
    state.mutating run (fun pack => pack.mark chosen.index) (fun _ => .downloading chosen false) reply
  | .downloading chosen renamed, .progress bytes =>
    some (some (.run run (.downloading chosen renamed)),
      (state.mutateRunning run fun pack => pack.progress chosen.index bytes).2)
  | .downloading chosen false, .renamed =>
    let name := chosen.file.fileName sha256
    some (some (.run run (.downloading chosen true)),
      { state with
        files := fun other => if other = name then some chosen.file.size else state.files other
        log := .published run name chosen.file.size :: state.log })
  | .downloading chosen true, .done => some (some (.run run (.cleaning chosen .done)), state)
  | .downloading chosen _, .stopped error lost =>
    some (some (.run run (.cleaning chosen (.failed error lost))), state)
  | .cleaning chosen outcome, .done =>
    some (some (.run run (.checking chosen outcome)), { state with files := cleanPartials state.files })
  | .checking chosen outcome, .done =>
    some (some (.run run (if run ∈ state.flags then .tidying else .dating chosen outcome)), state)
  | .dating chosen outcome, .done =>
    if chosen.expiresAt.any fun expires => decide (expires ≤ state.clock) then
      some (some (.run run .expiring), state)
    else some (some (.run run (.rereading chosen outcome)), state)
  | .rereading chosen outcome, .done =>
    match state.record with
    | none => some (some (.run run (.failing packNotFound)), state)
    | some pack =>
      if pack.isCancelled chosen.index then some (some (.run run (.discarding chosen)), state)
      else
        match outcome with
        | .done => some (some (.run run (.storing chosen)), state)
        | .failed error lost => some (some (.run run (.noting chosen error lost)), state)
  | .rereading _ _, .failed error => some (some (.run run (.failing error)), state)
  | .discarding chosen, .done =>
    some (some (.run run .top),
      { state with files := fun other => if other = chosen.file.fileName sha256 then none else state.files other })
  | .discarding _, .failed _ => some (some (.run run .top), state)
  | .storing chosen, reply =>
    state.mutating run (fun pack => pack.store chosen.index chosen.file.size)
      (fun pack => if pack.isCancelled chosen.index then .discarding chosen else .top) reply
  | .noting chosen error lost, reply =>
    state.mutating run (fun pack => pack.note chosen.index error lost) (fun _ => .top) reply
  | .failing error, .done =>
    some (some (.run run .tidying), (state.mutateRunning run fun pack => pack.fail error).2)
  | .failing _, .failed _ => some (some (.run run .tidying), state)
  | .tidying, .done => some (some (.run run .leaving), { state with files := cleanPartials state.files })
  | .leaving, .done => some (none, { state with jobs := none })
  | _, _ => none

/-- The first step of a command behind its maintenance. -/
def enter : PackCall -> Option CallPoint
  | .list => none
  | .resume =>
    if state.record.any fun pack => pack.autoResume &&
        (pack.status == .queued || pack.status == .running || pack.status == .waiting) then some .registering
    else none
  | .act action key =>
    match action with
    | .start | .retry => some (.checking action key)
    | .pause | .cancel | .remove => some (.stopping action key)
    | _ => some (.updating action key)
  | .verify key => some (.reading key state.clock)

/-- `cmd_offline_pack_action`, `resume_pending`, `launch` and `verified_path`. -/
def callStep : CallPoint -> PackReply -> Option (Option PackThread × PackState)
  | .entering call, .done =>
    let next := state.maintain sha256
    some ((next.enter call).map .call, next)
  | .entering _, .failed _ => some (none, state)
  | .entering _, .failedLate _ => some (none, state.sweep)
  | .checking action key, .done =>
    match state.jobs with
    | none => some (some (.call (.updating action key)), state)
    | some run => some (if run ∈ state.flags then some (.call (.awaiting action key)) else none, state)
  | .awaiting action key, .done =>
    if state.jobs.isSome then none else some (some (.call (.updating action key)), state)
  | .awaiting _ _, .failed _ => some (none, state)
  | .stopping action key, .done =>
    some (some (.call (.updating action key)), { state with flags := state.jobs.toList ++ state.flags })
  | .updating action key, .done =>
    match state.record with
    | none => some (none, state)
    | some pack =>
      match pack.act action key state.clock with
      | .error _ => some (none, state)
      | .ok next =>
        let after :=
          match action with
          | .start | .retry | .retryFile => some (.call .registering)
          | .remove => some (.call .draining)
          | _ => none
        some (after,
          { state with
            record := some next
            cancelled := cancellations pack action key state.cancelled })
  | .updating _ _, .failed _ => some (none, state)
  | .registering, .done =>
    if state.jobs.isSome then some (none, state)
    else
      some (some (.call (.preparing state.runs)),
        { state with
          jobs := some state.runs
          runs := state.runs + 1 })
  | .registering, .failed _ => some (none, state)
  | .preparing run, .done =>
    match state.record with
    | none => some (some (.call .unregistering), state)
    | some pack =>
      if pack.isExpired state.clock || decide (run ∈ state.flags) then
        some (some (.call .unregistering), state)
      else
        some (some (.run run .top), { state with record := some ((pack.launch run).stamped state.clock) })
  | .preparing _, .failed _ => some (some (.call .unregistering), state)
  | .unregistering, .done => some (none, { state with jobs := none })
  | .draining, .done => if state.jobs.isSome then none else some (some (.call .deleting), state)
  | .draining, .failed _ => some (none, state)
  | .deleting, .done => some (some (.call .dropping), { state with files := fun _ => none })
  | .deleting, .failed _ => some (none, state)
  | .dropping, .done => some (none, { state with record := none })
  | .dropping, .failed _ => some (none, state)
  | .reading key since, .done =>
    match state.record with
    | none => some (none, state)
    | some pack =>
      if pack.status = .expired then some (none, state)
      else
        match pack.files.find? fun item => item.file.key == key && item.status == .ready with
        | none => some (none, state)
        | some item =>
          some (some (.call (.resolving pack item since)), { state with log := .read pack since :: state.log })
  | .reading _ _, .failed _ => some (none, state)
  | .resolving pack item since, .done =>
    match existingPath sha256 state.files item.file with
    | .error _ => some (none, state)
    | .ok _ => some (none, { state with log := .returned pack item since :: state.log })
  | .resolving _ _ _, .failed _ => some (none, state)
  | _, _ => none

def threadStep : PackThread -> PackReply -> Option (Option PackThread × PackState)
  | .run run point, reply => state.runStep sha256 run point reply
  | .call point, reply => state.callStep sha256 point reply

end Names

end PackState

/-! ## Steps -/

inductive PackEvent
  | begin (call : PackCall)
  | advance (index : Nat) (reply : PackReply)
  | outside (files : PackDirectory)
  | tick (clock : Int)
  | crash

section Steps

variable (sha256 : String -> String)

def PackState.step (state : PackState) : PackEvent -> Option PackState
  | .begin call => some { state with threads := .call (.entering call) :: state.threads }
  | .advance index reply =>
    (state.threads[index]?).bind fun thread =>
      (state.threadStep sha256 thread reply).map fun (next, after) =>
        { after with
          threads :=
            match next with
            | none => state.threads.eraseIdx index
            | some next => state.threads.set index next }
  | .outside files => some { state with files := files }
  | .tick clock => some { state with clock := clock }
  | .crash =>
    some { state with
      jobs := none
      flags := []
      threads := [] }

def packMachine : Machine PackState PackEvent where
  step := PackState.step sha256

end Steps

/-- A pack that was created, without a job or a command. -/
def PackState.Starts (state : PackState) : Prop :=
  (Exists fun pack => state.record = some pack ∧
    Exists fun file => Exists fun request => Exists fun now => createRecord file request now = .ok pack) ∧
  state.jobs = none ∧ state.threads = [] ∧ state.cancelled = [] ∧ state.log = []

end Workspace
end TelegramDrive
