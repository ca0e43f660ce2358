import Std.Data.TreeMap.Lemmas
import Mathlib.Algebra.Group.Int.Defs
import Mathlib.Algebra.GroupWithZero.Nat
import TelegramDrive.Library.Machine

namespace TelegramDrive
namespace Workspace

/-!
# Scheduled removals

A file that is to be removed stays in Telegram for a grace period.  Its removal is a
record under the key of the file, which a schedule writes, a restore calls off, and a
processing run carries out once its deadline has passed.  The three commands hold one lock
from start to end, while messages in Telegram and the inventory may change at any moment.

The steps are the accesses of the store and the calls to Telegram.  The process may stop
between any two of them, and time passes between them.
-/

/-! ## Removals -/

inductive RemovalStatus
  | pending
  | deleting
  | failed
  | restored
  | deleted
deriving DecidableEq

structure WorkspaceFile where
  key : String
  folderId : Option Int
  id : Int
deriving DecidableEq

structure Removal where
  id : Nat
  key : String
  file : WorkspaceFile
  requestedAt : Int
  deleteAfter : Int
  status : RemovalStatus
  fingerprint : String
  error : Option String
deriving DecidableEq

namespace Removal

def mayRestore (removal : Removal) : Bool :=
  removal.status == .pending || removal.status == .failed

/-- The removal is under way. -/
def stands (removal : Removal) : Bool :=
  removal.status == .pending || removal.status == .deleting

def isDue (removal : Removal) (now : Int) : Bool := removal.stands && decide (removal.deleteAfter ≤ now)

end Removal

/-! ## Messages -/

inductive Media
  | document (id : Int) (size : Nat)
  | photo (id : Int) (size : Nat)
  | other
deriving DecidableEq

structure Message where
  media : Option Media
  editDate : Option Int
  text : String
deriving DecidableEq

def fileNotFound : String := "FILE_NOT_FOUND"

/-- The part of a fingerprint that names the media, and its size. -/
def Media.identity : Media -> Except String (String × Nat)
  | document id size => .ok ("document:" ++ toString id, size)
  | photo id size => .ok ("photo:" ++ toString id, size)
  | other => .error "UNSUPPORTED_FILE"

/-- `fingerprint`, with a hash in hexadecimal digits. -/
def Message.fingerprint (sha256 : String -> String) (message : Message) : Except String String :=
  match message.media with
  | none => .error fileNotFound
  | some media => do
      let (identity, size) <- media.identity
      return sha256 (identity ++ ":" ++ toString size ++ ":" ++ toString (message.editDate.getD 0) ++ ":" ++
        message.text)

/-! ## Decisions -/

def millisecondsPerDay : Int := 86400000

/-- `schedule`: the removal to report, and whether it is new. -/
def schedule (existing : Option Removal) (file : WorkspaceFile) (fingerprint : String) (days : Nat)
    (now : Int) (id : Nat) : Except String (Removal × Bool) :=
  if days < 1 ∨ 30 < days then .error "INVALID_RETENTION: Choose 1–30 days"
  else
    match existing.filter Removal.stands with
    | some removal => .ok (removal, false)
    | none =>
      .ok (⟨id, file.key, file, now, now + days * millisecondsPerDay, .pending, fingerprint, none⟩, true)

def restore (existing : Option Removal) : Except String Removal :=
  match existing with
  | none => .error "REMOVAL_NOT_FOUND"
  | some removal =>
    if removal.mayRestore then .ok { removal with status := .restored, error := none }
    else .error "RESTORATION_UNAVAILABLE: This removal has already been processed"

/-- What `process_one` does with a removal. -/
inductive Verdict
  | notDue
  | changed (removal : Removal)
  | claim (removal : Removal)
  | absent (removal : Removal)

def judge (removal : Removal) (now : Int) (remote : Option String) : Verdict :=
  if !removal.isDue now then .notDue
  else
    match remote with
    | none => .absent { removal with status := .deleted, error := none }
    | some fingerprint =>
      if fingerprint ≠ removal.fingerprint then
        .changed { removal with status := .failed, error := some "FILE_CHANGED" }
      else .claim { removal with status := .deleting, error := none }

/-! ## Commands -/

/-- Where the scheduling of one file is. -/
inductive SchedulePoint
  | looking
  | asking (file : WorkspaceFile)
  | storing (file : WorkspaceFile) (fingerprint : String)

/-- Where a processing run is, with the removal in its hands. -/
inductive ProcessPoint
  | next
  | asking (removal : Removal)
  | judging (removal : Removal) (remote : Option String)
  | claimed (removal : Removal)
  | deleting (removal : Removal)
  | noting (removal : Removal)
  | finishing (removal : Removal)

/-- The command that holds the lock. -/
inductive Activity
  | idle
  | scheduling (key : String) (rest : List String) (days : Nat) (point : SchedulePoint)
  | restoring (key : String)
  | listing
  | processing (point : ProcessPoint) (rest : List Removal)

inductive Command
  | schedule (keys : List String) (days : Nat)
  | restore (key : String)
  | process

/-- A call to delete a message, with the record that is stored under the key then. -/
structure Issue where
  key : String
  folderId : Option Int
  id : Int
  time : Int
  record : Option Removal
deriving DecidableEq

/-- What happened to removals: a record was scheduled, a restore returned `Ok`, a run began,
a run read a message, or issued a call to delete it, or had a call answered with success. -/
inductive Entry
  | scheduled (key : String)
  | restored (key : String)
  | began
  | read (key : String) (remote : Option String)
  | issued (issue : Issue)
  | answered (key : String)
deriving DecidableEq

abbrev RemovalRecords := Std.TreeMap String Removal

/-- The store of one account, its messages in Telegram, and the command under way.  The
newest entry of the log comes first. -/
structure CleanupState where
  clock : Int
  drawn : Nat
  files : String -> Option WorkspaceFile
  remote : Option Int -> Int -> Option Message
  records : RemovalRecords
  activity : Activity
  log : List Entry

/-- What a step hears: that it worked, that it failed, before or after it took effect, or
that the account is another one by now. -/
inductive CleanupReply
  | done
  | failed
  | failedLate
  | accountChanged
deriving DecidableEq

inductive CleanupEvent
  | begin (command : Command)
  | proceed (reply : CleanupReply)
  | listed (removals : List Removal)
  | crash
  | tick (time : Int)
  | edit (folderId : Option Int) (id : Int) (message : Option Message)
  | index (folderId : Option Int) (id : Int)
  | forget (key : String)

/-- `file_key` -/
def fileKey (folderId : Option Int) (id : Int) : String :=
  (folderId.elim "saved" toString) ++ ":" ++ toString id

/-- `i32::try_from` succeeds. -/
def IsI32 (value : Int) : Prop := -2 ^ 31 ≤ value ∧ value < 2 ^ 31

instance (value : Int) : Decidable (IsI32 value) := inferInstanceAs (Decidable (_ ∧ _))

def validRecordId (id : String) : Bool := id ≠ "" && decide (id.utf8ByteSize ≤ 256)

namespace CleanupState

/-- Whether writing a record takes effect. -/
def effective (key : String) (reply : CleanupReply) : Bool :=
  validRecordId key && (reply == .done || reply == .failedLate)

/-- Whether writing a record returns `Ok`. -/
def succeeded (key : String) (reply : CleanupReply) : Bool := validRecordId key && reply == .done

/-- `put_record` -/
def put (state : CleanupState) (key : String) (removal : Removal) (reply : CleanupReply) : CleanupState :=
  if effective key reply then { state with records := state.records.insert key removal } else state

def record (state : CleanupState) (entry : Entry) : CleanupState := { state with log := entry :: state.log }

def turn (state : CleanupState) (activity : Activity) : CleanupState := { state with activity := activity }

def setMessage (state : CleanupState) (folderId : Option Int) (id : Int) (message : Option Message) :
    CleanupState :=
  { state with
    remote := fun folder number => if folder = folderId ∧ number = id then message else state.remote folder number }

/-- The message of a file in Telegram, if it is there, and its fingerprint. -/
def read (sha256 : String -> String) (state : CleanupState) (file : WorkspaceFile) :
    Except String (Option String) :=
  if ¬ IsI32 file.id then .error "INVALID_FILE"
  else
    match state.remote file.folderId file.id with
    | none => .ok none
    | some message => (message.fingerprint sha256).map some

/-- The files of a schedule are taken one after another, whatever happens to one of them. -/
def nextKey (state : CleanupState) (rest : List String) (days : Nat) : CleanupState :=
  match rest with
  | [] => state.turn .idle
  | key :: rest => state.turn (.scheduling key rest days .looking)

end CleanupState

section Steps

variable (sha256 : String -> String)

open CleanupState

/-- `cmd_cleanup_schedule`, for one file. -/
def workSchedule (state : CleanupState) (key : String) (rest : List String) (days : Nat)
    (reply : CleanupReply) : SchedulePoint -> CleanupState
  | .looking =>
    match reply, state.files key with
    | .done, some file => state.turn (.scheduling key rest days (.asking file))
    | _, _ => state.nextKey rest days
  | .asking file =>
    match reply, state.read sha256 file with
    | .done, .ok (some fingerprint) => state.turn (.scheduling key rest days (.storing file fingerprint))
    | _, _ => state.nextKey rest days
  | .storing file fingerprint =>
    match schedule state.records[file.key]? file fingerprint days state.clock state.drawn with
    | .ok (removal, true) =>
      let stored := { state with drawn := state.drawn + 1 }.put removal.key removal reply
      let noted := if effective removal.key reply then stored.record (.scheduled removal.key) else stored
      noted.nextKey rest days
    | _ => state.nextKey rest days

/-- `cmd_cleanup_restore` -/
def workRestore (state : CleanupState) (key : String) (reply : CleanupReply) : CleanupState :=
  match restore state.records[key]? with
  | .error _ => state.turn .idle
  | .ok removal =>
    let stored := state.put key removal reply
    (if succeeded key reply then stored.record (.restored key) else stored).turn .idle

/-- After a write of `process_one` the run goes on, or ends with its error. -/
def afterWrite (state : CleanupState) (removal : Removal) (reply : CleanupReply) (point : ProcessPoint)
    (rest : List Removal) : CleanupState :=
  (state.put removal.key removal reply).turn
    (if succeeded removal.key reply then .processing point rest else .idle)

/-- `cmd_cleanup_process` and `process_one` -/
def workProcess (state : CleanupState) (rest : List Removal) (reply : CleanupReply) :
    ProcessPoint -> CleanupState
  | .next =>
    match rest with
    | [] => state.turn .idle
    | removal :: rest =>
      if !removal.isDue state.clock then state.turn (.processing .next rest)
      else if reply = .accountChanged then state.turn .idle
      else state.turn (.processing (.asking removal) rest)
  | .asking removal =>
    match reply with
    | .accountChanged => state.turn .idle
    | .failed | .failedLate => state.turn (.processing .next rest)
    | .done =>
      match state.read sha256 removal.file with
      | .error _ => state.turn .idle
      | .ok remote =>
        (state.record (.read removal.key remote)).turn (.processing (.judging removal remote) rest)
  | .judging removal remote =>
    match judge removal state.clock remote with
    | .notDue => state.turn (.processing .next rest)
    | .changed failed => afterWrite state failed reply .next rest
    | .claim claimed => afterWrite state claimed reply (.claimed claimed) rest
    | .absent deleted =>
      if reply = .accountChanged then state.turn .idle
      else state.turn (.processing (.finishing deleted) rest)
  | .claimed removal =>
    if reply = .accountChanged then state.turn .idle
    else
      (state.record (.issued ⟨removal.key, removal.file.folderId, removal.file.id, state.clock,
        state.records[removal.key]?⟩)).turn (.processing (.deleting removal) rest)
  | .deleting removal =>
    let noted := ProcessPoint.noting { removal with error := some "NETWORK_UNAVAILABLE" }
    match reply with
    | .done =>
      ((state.setMessage removal.file.folderId removal.file.id none).record (.answered removal.key)).turn
        (.processing (.finishing { removal with status := .deleted, error := none }) rest)
    | .failedLate =>
      (state.setMessage removal.file.folderId removal.file.id none).turn (.processing noted rest)
    | .failed | .accountChanged => state.turn (.processing noted rest)
  | .noting removal => afterWrite state removal reply .next rest
  | .finishing removal =>
    let written := afterWrite state removal reply .next rest
    if effective removal.key reply then
      { written with files := fun key => if key = removal.key then none else state.files key }
    else written

/-- A command takes the lock, once its arguments are accepted. -/
def beginCommand (state : CleanupState) : Command -> Option CleanupState
  | .schedule keys days =>
    match keys with
    | [] => none
    | key :: rest =>
      if 500 < keys.length ∨ days < 1 ∨ 30 < days then none
      else some (state.turn (.scheduling key rest days .looking))
  | .restore key => some (state.turn (.restoring key))
  | .process => some ((state.record .began).turn .listing)

def CleanupState.step (state : CleanupState) : CleanupEvent -> Option CleanupState
  | .begin command =>
    match state.activity with
    | .idle => beginCommand state command
    | _ => none
  | .proceed reply =>
    match state.activity with
    | .idle => none
    | .scheduling key rest days point => some (workSchedule sha256 state key rest days reply point)
    | .restoring key => some (workRestore state key reply)
    | .listing => if reply = .done then none else some (state.turn .idle)
    | .processing point rest => some (workProcess sha256 state rest reply point)
  | .listed removals =>
    match state.activity with
    | .listing =>
      -- in the order of their last changes
      if removals.Perm (state.records.toList.map Prod.snd) then
        some (state.turn (.processing .next removals))
      else none
    | _ => none
  | .crash => some (state.turn .idle)
  | .tick time => if state.clock ≤ time then some { state with clock := time } else none
  | .edit folderId id message => some (state.setMessage folderId id message)
  | .index folderId id =>
    if 0 < id then
      some { state with
        files := fun key =>
          if key = fileKey folderId id then some ⟨key, folderId, id⟩ else state.files key }
    else none
  | .forget key => some { state with files := fun other => if other = key then none else state.files other }

def cleanupMachine : Machine CleanupState CleanupEvent where
  step := CleanupState.step sha256

end Steps

/-- Nothing is scheduled yet. -/
def CleanupState.Starts (state : CleanupState) : Prop :=
  state.records = ∅ ∧ state.activity = .idle ∧ state.log = []

end Workspace
end TelegramDrive
